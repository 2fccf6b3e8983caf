import BoxArrow.Proofs.Grammar.Basic
import BoxArrow.Proofs.Outcome
import BoxArrow.Proofs.Relocation.Statement
import BoxArrow.Statement.Reader

/-!
# What the readers find

The readers decide by the next few tokens and never go back, so a rule of the grammar might be left
before all its tokens are taken, or be held on to for too long. Neither happens: behind a statement
stands the start of another one, or the brace of a container, and no such token can extend the
statement before it.

## Main definitions

* `Grammar.EndsStatement`, `Grammar.EndsHeading` — the tokens that may stand behind a statement

## Main results

* `Grammar.takeBlock_append` — a block in parentheses is taken whole
* `Grammar.read_of_isStatement` — a statement is read, up to its spans, and nothing behind it
* `Grammar.ofTokens_of_derives` — the tokens of a document are accepted
-/

namespace BoxArrow.Grammar

/-- The tokens that may stand behind a statement: none, a word, the brace that closes a container,
or the three tokens that open a state declaration. -/
inductive EndsStatement : List Lexeme → Prop
  | nil : EndsStatement []
  | word (name : List Char) (span : Span) (rest : List Lexeme) :
      EndsStatement (⟨.identifier name, span⟩ :: rest)
  | brace (span : Span) (rest : List Lexeme) : EndsStatement (⟨.rightBrace, span⟩ :: rest)
  | state (s : Span) (name : List Char) (t u : Span) (rest : List Lexeme) :
      EndsStatement (⟨.atSign, s⟩ :: ⟨.identifier name, t⟩ :: ⟨.leftParen, u⟩ :: rest)

/-- The tokens that may stand behind a heading: those behind a statement, or an opening brace. -/
inductive EndsHeading : List Lexeme → Prop
  | brace (span : Span) (rest : List Lexeme) : EndsHeading (⟨.leftBrace, span⟩ :: rest)
  | statement {rest : List Lexeme} : EndsStatement rest → EndsHeading rest

variable {ts rest : List Lexeme}

theorem exists_of_map_token_eq_cons {t : Token} {tail : List Token}
    (h : ts.map Lexeme.token = t :: tail) :
    ∃ span ts', ts = ⟨t, span⟩ :: ts' ∧ ts'.map Lexeme.token = tail := by
  obtain ⟨⟨token, span⟩, ts', rfl, rfl, htail⟩ := List.map_eq_cons_iff.1 h
  exact ⟨span, ts', rfl, htail⟩

theorem exists_of_map_token_eq_singleton {t : Token} (h : ts.map Lexeme.token = [t]) :
    ∃ span, ts = [⟨t, span⟩] := by
  obtain ⟨span, ts', rfl, htail⟩ := exists_of_map_token_eq_cons h
  exact ⟨span, by rw [List.map_eq_nil_iff.1 htail]⟩

/-! ### Blocks -/

theorem takeBlock_leftParen (depth : Nat) (span : Span) :
    takeBlock depth (⟨.leftParen, span⟩ :: rest) =
      (takeBlock (depth + 1) rest).map (Prod.map (.leftParen :: ·) id) := by
  cases depth <;> rfl

theorem takeBlock_token (depth : Nat) {t : Token} (span : Span) (hl : t ≠ .leftParen)
    (hr : t ≠ .rightParen) :
    takeBlock depth (⟨t, span⟩ :: rest) = (takeBlock depth rest).map (Prod.map (t :: ·) id) := by
  cases t <;> first | rfl | contradiction

/-- Balanced tokens are taken whole, whatever stands behind them. -/
theorem takeBlock_append {inner : List Token} (h : Balanced inner) (depth : Nat)
    (hts : ts.map Lexeme.token = inner) :
    takeBlock depth (ts ++ rest) = (takeBlock depth rest).map (Prod.map (inner ++ ·) id) := by
  -- The depth is arbitrary, since the tokens between parentheses are read one level further down.
  induction h generalizing ts rest depth with
  | nil =>
    obtain rfl := List.map_eq_nil_iff.1 hts
    exact Option.map_id_apply.symm
  | token hl hr _ ih =>
    obtain ⟨span, ts', rfl, hts'⟩ := exists_of_map_token_eq_cons hts
    rw [List.cons_append, takeBlock_token depth span hl hr, ih depth hts', Option.map_map]
    rfl
  | @parens inner after _ _ ihinner ihts =>
    obtain ⟨span, ts', rfl, hts'⟩ := exists_of_map_token_eq_cons hts
    obtain ⟨before, after', rfl, hbefore, hafter⟩ := List.map_eq_append_iff.1 hts'
    obtain ⟨span', after', rfl, hafter'⟩ := exists_of_map_token_eq_cons hafter
    -- The parenthesis that closes the inner tokens brings the depth back.
    have hclose : takeBlock (depth + 1) (⟨.rightParen, span'⟩ :: after' ++ rest) =
        (takeBlock depth rest).map (Prod.map (.rightParen :: after ++ ·) id) := by
      change (takeBlock depth (after' ++ rest)).map (Prod.map (.rightParen :: ·) id) = _
      rw [ihts depth hafter', Option.map_map]
      rfl
    rw [List.cons_append, takeBlock_leftParen, List.append_assoc, ihinner (depth + 1) hbefore,
      hclose, Option.map_map, Option.map_map]
    refine congrArg (Option.map · _) (funext fun result => ?_)
    simp [Prod.map]

theorem readBlock_of_isBlock {block : List Token} {text : String} (stop : Span)
    (rest : List Lexeme) (h : IsBlock block text) (hts : ts.map Lexeme.token = block) :
    ∃ opened ts', ts = ⟨.leftParen, opened⟩ :: ts' ∧
      ∃ span, readBlock stop opened (ts' ++ rest) = .ok (text, span, rest) := by
  obtain ⟨hinner⟩ := h
  obtain ⟨opened, ts', rfl, hts'⟩ := exists_of_map_token_eq_cons hts
  obtain ⟨before, after, rfl, hbefore, hafter⟩ := List.map_eq_append_iff.1 hts'
  obtain ⟨closed, rfl⟩ := exists_of_map_token_eq_singleton hafter
  refine ⟨opened, _, rfl, opened.union closed, ?_⟩
  rw [readBlock, List.append_assoc, takeBlock_append hinner 0 hbefore]
  simp [takeBlock]

/-! ### Headings -/

theorem readType_of_isType {types : List Token} {type : Option String} (name : String)
    (h : IsType types type) (hts : ts.map Lexeme.token = types)
    (hrest : ∀ span tail, rest ≠ ⟨.colon, span⟩ :: tail) :
    ∃ read, Heading.readType name (ts ++ rest) = .ok (read, rest) ∧ read.map Prod.fst = type := by
  cases h with
  | absent =>
    obtain rfl := List.map_eq_nil_iff.1 hts
    refine ⟨none, ?_, rfl⟩
    rw [List.nil_append, Heading.readType]
    · exact fun _ _ _ _ e => hrest _ _ e
    · exact fun _ _ e => hrest _ _ e
  | present type =>
    obtain ⟨s, ts', rfl, hts'⟩ := exists_of_map_token_eq_cons hts
    obtain ⟨t, rfl⟩ := exists_of_map_token_eq_singleton hts'
    exact ⟨some (.ofList type, t), rfl, rfl⟩

theorem readTag_of_isTag {tags : List Token} {tag : Option String} (name : String)
    (h : IsTag tags tag) (hts : ts.map Lexeme.token = tags) (hrest : EndsHeading rest) :
    ∃ read, Heading.readTag name (ts ++ rest) = .ok (read, rest) ∧ read.map Prod.fst = tag := by
  cases h with
  | absent =>
    obtain rfl := List.map_eq_nil_iff.1 hts
    refine ⟨none, ?_, rfl⟩
    -- A sign behind the heading opens a state declaration, and the reader looks far enough to tell.
    rcases hrest with ⟨_, _⟩ | ⟨_ | _ | _ | _⟩ <;> rfl
  | present tag =>
    obtain ⟨s, ts', rfl, hts'⟩ := exists_of_map_token_eq_cons hts
    obtain ⟨t, rfl⟩ := exists_of_map_token_eq_singleton hts'
    refine ⟨some (.ofList tag, t), ?_, rfl⟩
    -- No parenthesis stands behind the tag, so it does not open a state declaration.
    rcases hrest with ⟨_, _⟩ | ⟨_ | _ | _ | _⟩ <;> rfl

/-- Behind the type of a heading, neither a colon, a dot nor an arrow can stand. -/
theorem ne_cons_of_isTag {tags : List Token} {tag : Option String} (h : IsTag tags tag)
    (hts : ts.map Lexeme.token = tags) (hrest : EndsHeading rest) {t : Token}
    (ht : t = .colon ∨ t = .dot ∨ t = .arrow) (span : Span) (tail : List Lexeme) :
    ts ++ rest ≠ ⟨t, span⟩ :: tail := by
  cases h with
  | absent =>
    obtain rfl := List.map_eq_nil_iff.1 hts
    rcases hrest with ⟨_, _⟩ | ⟨_ | _ | _ | _⟩ <;> rintro ⟨⟩ <;> simp at ht
  | present tag =>
    obtain ⟨s, ts', rfl, hts'⟩ := exists_of_map_token_eq_cons hts
    rintro ⟨⟩
    simp at ht

/-- A heading is read whole, up to its span, and is taken for no connection. -/
theorem read_of_isHeading {head : List Token} {h : Heading} (stop : Span) (hh : IsHeading head h)
    (hts : ts.map Lexeme.token = head) (hrest : EndsHeading rest) :
    ∃ name span ts', ts = ⟨.identifier name, span⟩ :: ts' ∧
      Connection.read? stop (.ofList name) span (ts' ++ rest) = none ∧
      ∃ h', Heading.read (.ofList name) span (ts' ++ rest) = .ok (h', rest) ∧ h'.bare = h.bare := by
  obtain @⟨name, types, tags, type, tag, _, htype, htag⟩ := hh
  obtain ⟨span, ts', rfl, hts'⟩ := exists_of_map_token_eq_cons hts
  obtain ⟨before, after, rfl, hbefore, hafter⟩ := List.map_eq_append_iff.1 hts'
  have hne {t : Token} (ht : t = .colon ∨ t = .dot ∨ t = .arrow) (span : Span)
      (tail : List Lexeme) : after ++ rest ≠ ⟨t, span⟩ :: tail :=
    ne_cons_of_isTag htag hafter hrest ht span tail
  refine ⟨name, span, _, rfl, ?_, ?_⟩
  · -- Neither an arrow nor an anchor with an arrow follows the name.
    cases htype with
    | absent =>
      obtain rfl := List.map_eq_nil_iff.1 hbefore
      rw [List.nil_append, Connection.read?]
      · exact fun _ _ _ _ _ e => hne (.inr (.inl rfl)) _ _ e
      · exact fun _ _ _ e => hne (.inr (.inl rfl)) _ _ e
      · exact fun _ _ e => hne (.inr (.inr rfl)) _ _ e
    | present type =>
      obtain ⟨s, ts', rfl, _⟩ := exists_of_map_token_eq_cons hbefore
      rfl
  · obtain ⟨readType, hreadType, rfl⟩ :=
      readType_of_isType (.ofList name) htype hbefore (hne (.inl rfl))
    obtain ⟨readTag, hreadTag, rfl⟩ := readTag_of_isTag (.ofList name) htag hafter hrest
    rw [← List.append_assoc] at hreadType
    exact ⟨_, bind_eq_ok_iff.2 ⟨_, hreadType, bind_eq_ok_iff.2 ⟨_, hreadTag, rfl⟩⟩, rfl⟩

/-! ### Connections -/

/-- A style is read whole. Behind it stands no parenthesis, and behind the target no dot. -/
theorem readStyle_of_isStyle {style : List Token} {text : String} (stop span : Span)
    (h : IsStyle style text) (hts : ts.map Lexeme.token = style) (hrest : EndsStatement rest) :
    ∃ span', Connection.readStyle stop span (ts ++ rest) = .ok (text, span', rest) := by
  cases h with
  | absent =>
    obtain rfl := List.map_eq_nil_iff.1 hts
    refine ⟨span, ?_⟩
    rcases hrest with _ | _ | _ | _ <;> rfl
  | present hblock =>
    obtain ⟨opened, ts', rfl, block, hread⟩ :=
      readBlock_of_isBlock stop rest hblock hts
    exact ⟨_, bind_eq_ok_iff.2 ⟨_, hread, rfl⟩⟩

theorem ne_dot_of_isStyle {style : List Token} {text : String} (h : IsStyle style text)
    (hts : ts.map Lexeme.token = style) (hrest : EndsStatement rest) (span : Span)
    (tail : List Lexeme) : ts ++ rest ≠ ⟨.dot, span⟩ :: tail := by
  cases h with
  | absent =>
    obtain rfl := List.map_eq_nil_iff.1 hts
    rcases hrest with _ | _ | _ | _ <;> rintro ⟨⟩
  | present hblock =>
    obtain ⟨hinner⟩ := hblock
    obtain ⟨s, ts', rfl, hts'⟩ := exists_of_map_token_eq_cons hts
    rintro ⟨⟩

theorem readTarget_of_isEnd {target style : List Token} {b y text : String} (stop span arrow : Span)
    (source anchor : String) (htarget : IsEnd target b y) (hstyle : IsStyle style text)
    (hts : ts.map Lexeme.token = target ++ style) (hrest : EndsStatement rest) :
    ∃ span', Connection.readTarget stop source span anchor arrow (ts ++ rest) =
      .ok (⟨source, .ofText anchor, b, .ofText y, text, span'⟩, rest) := by
  obtain ⟨before, after, rfl, hbefore, hafter⟩ := List.map_eq_append_iff.1 hts
  -- An anchor is read only if one is written, as no dot opens a block or the next statement.
  have hne := ne_dot_of_isStyle hstyle hafter hrest
  have hread (span : Span) := readStyle_of_isStyle stop span hstyle hafter hrest
  rw [List.append_assoc]
  cases htarget with
  | plain name =>
    obtain ⟨s, rfl⟩ := exists_of_map_token_eq_singleton hbefore
    have hanchor : Connection.readTargetAnchor (span.union s) (after ++ rest) =
        .ok ("", span.union s, after ++ rest) := by
      rw [Connection.readTargetAnchor]
      · exact fun _ _ _ _ e => hne _ _ e
      · exact fun _ _ e => hne _ _ e
    obtain ⟨span', hstyle⟩ := hread (span.union s)
    exact ⟨span', bind_eq_ok_iff.2 ⟨_, hanchor, bind_eq_ok_iff.2 ⟨_, hstyle, rfl⟩⟩⟩
  | anchored name anchor =>
    obtain ⟨s, ts', rfl, hts'⟩ := exists_of_map_token_eq_cons hbefore
    obtain ⟨d, ts'', rfl, hts''⟩ := exists_of_map_token_eq_cons hts'
    obtain ⟨t, rfl⟩ := exists_of_map_token_eq_singleton hts''
    obtain ⟨span', hstyle⟩ := hread ((span.union s).union t)
    exact ⟨span', bind_eq_ok_iff.2 ⟨_, rfl, bind_eq_ok_iff.2 ⟨_, hstyle, rfl⟩⟩⟩

/-- A connection is read whole, up to its span. -/
theorem read?_of_isConnection {used : List Token} {c : Connection} (stop : Span)
    (h : IsConnection used c) (hts : ts.map Lexeme.token = used) (hrest : EndsStatement rest) :
    ∃ name span ts', ts = ⟨.identifier name, span⟩ :: ts' ∧
      ∃ c', Connection.read? stop (.ofList name) span (ts' ++ rest) = some (.ok (c', rest)) ∧
        c'.bare = c.bare := by
  obtain @⟨source, target, style, a, x, b, y, text, _, hsource, htarget, hstyle⟩ := h
  rw [List.append_assoc] at hts
  obtain ⟨before, after', rfl, hbefore, hafter'⟩ := List.map_eq_append_iff.1 hts
  obtain ⟨arrow, after, rfl, hafter⟩ := exists_of_map_token_eq_cons hafter'
  -- Whatever stands before the arrow, what is behind it is read in the same way.
  have hread (span : Span) :=
    readTarget_of_isEnd stop span arrow a x htarget hstyle hafter hrest
  cases hsource with
  | plain name =>
    obtain ⟨s, rfl⟩ := exists_of_map_token_eq_singleton hbefore
    obtain ⟨span', hconnection⟩ := hread s
    exact ⟨name, s, _, rfl, _, congrArg some hconnection, rfl⟩
  | anchored name anchor =>
    obtain ⟨s, ts', rfl, hts'⟩ := exists_of_map_token_eq_cons hbefore
    obtain ⟨d, ts'', rfl, hts''⟩ := exists_of_map_token_eq_cons hts'
    obtain ⟨t, rfl⟩ := exists_of_map_token_eq_singleton hts''
    obtain ⟨span', hconnection⟩ := hread s
    exact ⟨name, s, _, rfl, _, congrArg some hconnection, rfl⟩

/-! ### Members -/

theorem memberRead_identifier (stop opened : Span) (name : List Char) (span : Span) :
    Member.read stop opened ⟨.identifier name, span⟩ rest =
      match Connection.read? stop (.ofList name) span rest with
      | some result => result.map (Prod.map .connection id)
      | none =>
        match Heading.read (.ofList name) span rest with
        | .error e => .error e
        | .ok (heading, rest) => Member.readEnd opened heading rest := rfl

theorem read_of_isMember {used : List Token} {m : Member} (stop opened : Span)
    (h : IsMember used m) (hts : ts.map Lexeme.token = used) (hrest : EndsStatement rest) :
    ∃ name span ts', ts = ⟨.identifier name, span⟩ :: ts' ∧
      ∃ m', Member.read stop opened ⟨.identifier name, span⟩ (ts' ++ rest) = .ok (m', rest) ∧
        m'.bare = m.bare := by
  cases h with
  | connection hc =>
    obtain ⟨name, span, ts', rfl, c', hread, hbare⟩ := read?_of_isConnection stop hc hts hrest
    refine ⟨name, span, ts', rfl, .connection c', ?_, congrArg Member.connection hbare⟩
    rw [memberRead_identifier, hread]
    rfl
  | declaration hh =>
    obtain ⟨name, span, ts', rfl, hnone, h', hread, hbare⟩ :=
      read_of_isHeading stop hh hts (.statement hrest)
    refine ⟨name, span, ts', rfl, .declaration h', ?_, congrArg Member.declaration hbare⟩
    rw [memberRead_identifier, hnone, hread]
    -- No brace stands behind a member, so it is taken for no container.
    rcases hrest with _ | _ | _ | _ <;> rfl

/-- Members stand before a word or the brace that closes the container. -/
theorem endsStatement_of_areMembers {used : List Token} {ms : List Member} (tail : List Token)
    (h : AreMembers used ms) (hts : ts.map Lexeme.token = used ++ .rightBrace :: tail) :
    EndsStatement ts := by
  cases h with
  | nil =>
    obtain ⟨span, ts', rfl, _⟩ := exists_of_map_token_eq_cons hts
    exact .brace _ _
  | cons hm _ =>
    rw [List.append_assoc] at hts
    obtain ⟨before, after, rfl, hbefore, _⟩ := List.map_eq_append_iff.1 hts
    -- Only the first token of the member matters, so it is read as if nothing stood behind it.
    obtain ⟨_, _, _, rfl, _⟩ := read_of_isMember (.point 0) (.point 0) hm hbefore .nil
    exact .word _ _ _

theorem memberReadAll_of_read {stop opened span : Span} {name : List Char} {m : Member}
    (h : Member.read stop opened ⟨.identifier name, span⟩ ts = .ok (m, rest)) :
    Member.readAll stop opened (⟨.identifier name, span⟩ :: ts) =
      (Member.readAll stop opened rest).map (Prod.map (m :: ·) id) := by
  rw [Member.readAll]
  · split
    · rename_i e
      rw [h] at e
      cases e
    · rename_i e
      rw [h] at e
      cases e
      rfl
  · intro _ e
    cases e

/-- The members of a body are read up to the brace that closes it. -/
theorem readAll_of_areMembers {used : List Token} {ms : List Member} (stop opened closed : Span)
    (rest : List Lexeme) (h : AreMembers used ms) (hts : ts.map Lexeme.token = used) :
    ∃ ms', Member.readAll stop opened (ts ++ ⟨.rightBrace, closed⟩ :: rest) = .ok (ms', rest) ∧
      ms'.map Member.bare = ms.map Member.bare := by
  induction h generalizing ts with
  | nil =>
    obtain rfl := List.map_eq_nil_iff.1 hts
    exact ⟨[], by rw [List.nil_append, Member.readAll], rfl⟩
  | cons hm hms ih =>
    obtain ⟨before, after, rfl, hbefore, hafter⟩ := List.map_eq_append_iff.1 hts
    -- Behind the first member stands the next one, or the brace.
    have hends : EndsStatement (after ++ ⟨.rightBrace, closed⟩ :: rest) :=
      endsStatement_of_areMembers (rest.map Lexeme.token) hms (by simp [hafter])
    obtain ⟨ms', hall, hbares⟩ := ih hafter
    obtain ⟨name, span, ts', rfl, m', hread, hbare⟩ :=
      read_of_isMember stop opened hm hbefore hends
    refine ⟨m' :: ms', ?_, ?_⟩
    · rw [List.append_assoc, List.cons_append, memberReadAll_of_read hread, hall]
      rfl
    · rw [List.map_cons, List.map_cons, hbare, hbares]

/-! ### Statements -/

theorem readBody_of_isBody {body : List Token} {ms : Option (List Member)} (stop : Span)
    (heading : Heading) (h : IsBody body ms) (hts : ts.map Lexeme.token = body)
    (hrest : EndsStatement rest) :
    ∃ ms', Statement.readBody stop heading (ts ++ rest) = .ok (.declaration heading ms', rest) ∧
      ms'.map (·.map Member.bare) = ms.map (·.map Member.bare) := by
  cases h with
  | absent =>
    obtain rfl := List.map_eq_nil_iff.1 hts
    refine ⟨none, ?_, rfl⟩
    rcases hrest with _ | _ | _ | _ <;> rfl
  | present hms =>
    obtain ⟨opened, ts', rfl, hts'⟩ := exists_of_map_token_eq_cons hts
    obtain ⟨before, after, rfl, hbefore, hafter⟩ := List.map_eq_append_iff.1 hts'
    obtain ⟨closed, rfl⟩ := exists_of_map_token_eq_singleton hafter
    obtain ⟨ms', hall, hbares⟩ :=
      readAll_of_areMembers stop opened closed rest hms hbefore
    refine ⟨some ms', ?_, congrArg some hbares⟩
    -- The brace ends the reading of members, and what is behind it is left as it was.
    rw [List.cons_append, List.append_assoc]
    exact map_eq_ok_iff.2 ⟨_, hall, rfl⟩

theorem statementRead_identifier (stop : Span) (name : List Char) (span : Span) :
    Statement.read stop ⟨.identifier name, span⟩ rest =
      match Connection.read? stop (.ofList name) span rest with
      | some result => result.map (Prod.map .connection id)
      | none =>
        match Heading.read (.ofList name) span rest with
        | .error e => .error e
        | .ok (heading, rest) => Statement.readBody stop heading rest := rfl

/-- Behind a heading stands its body, or the end of the declaration. -/
theorem endsHeading_of_isBody {body : List Token} {ms : Option (List Member)} (h : IsBody body ms)
    (hts : ts.map Lexeme.token = body) (hrest : EndsStatement rest) : EndsHeading (ts ++ rest) := by
  cases h with
  | absent =>
    obtain rfl := List.map_eq_nil_iff.1 hts
    exact .statement hrest
  | present _ =>
    obtain ⟨span, ts', rfl, _⟩ := exists_of_map_token_eq_cons hts
    exact .brace _ _

/-- A statement is read whole, up to its spans. -/
theorem read_of_isStatement {used : List Token} {s : Statement} (stop : Span)
    (h : IsStatement used s) (hts : ts.map Lexeme.token = used) (hrest : EndsStatement rest) :
    ∃ first ts', ts = first :: ts' ∧
      ∃ s', Statement.read stop first (ts' ++ rest) = .ok (s', rest) ∧ s'.bare = s.bare := by
  cases h with
  | state hblock =>
    obtain ⟨start, ts', rfl, hts'⟩ := exists_of_map_token_eq_cons hts
    obtain ⟨span, ts'', rfl, hts''⟩ := exists_of_map_token_eq_cons hts'
    obtain ⟨opened, ts, rfl, block, hread⟩ :=
      readBlock_of_isBlock stop rest hblock hts''
    refine ⟨_, _, rfl, _, map_eq_ok_iff.2 ⟨_, bind_eq_ok_iff.2 ⟨_, hread, rfl⟩, rfl⟩, rfl⟩
  | connection hc =>
    obtain ⟨name, span, ts', rfl, c', hread, hbare⟩ := read?_of_isConnection stop hc hts hrest
    refine ⟨_, ts', rfl, .connection c', ?_, congrArg Statement.connection hbare⟩
    rw [statementRead_identifier, hread]
    rfl
  | declaration hh hbody =>
    obtain ⟨before, after, rfl, hbefore, hafter⟩ := List.map_eq_append_iff.1 hts
    obtain ⟨name, span, ts', rfl, hnone, h', hread, hbare⟩ :=
      read_of_isHeading stop hh hbefore (endsHeading_of_isBody hbody hafter hrest)
    obtain ⟨ms', hreadBody, hbares⟩ := readBody_of_isBody stop h' hbody hafter hrest
    refine ⟨_, ts' ++ after, rfl, .declaration h' ms', ?_, ?_⟩
    -- A connection is tried first, and given up before anything is taken.
    · rw [List.append_assoc, statementRead_identifier, hnone, hread]
      exact hreadBody
    · change Statement.declaration h'.bare (ms'.map (·.map Member.bare)) = _
      rw [hbare, hbares]
      rfl

/-- A statement stands before the first token of another one, or at the end. -/
theorem endsStatement_of_derives {ss : List Statement} (h : Derives (ts.map Lexeme.token) ss) :
    EndsStatement ts := by
  generalize hused : ts.map Lexeme.token = used at h
  cases h with
  | nil =>
    obtain rfl := List.map_eq_nil_iff.1 hused
    exact .nil
  | cons hs hss =>
    obtain ⟨before, after, rfl, hbefore, hafter⟩ := List.map_eq_append_iff.1 hused
    -- Only the first tokens of the first statement matter, whatever stands behind it.
    cases hs with
    | state hblock =>
      obtain ⟨hinner⟩ := hblock
      obtain ⟨_, ts', rfl, hts'⟩ := exists_of_map_token_eq_cons hbefore
      obtain ⟨_, ts'', rfl, hts''⟩ := exists_of_map_token_eq_cons hts'
      obtain ⟨_, _, rfl, _⟩ := exists_of_map_token_eq_cons hts''
      exact .state _ _ _ _ _
    | connection hc =>
      obtain ⟨name, span, ts', rfl, _⟩ := read?_of_isConnection (.point 0) hc hbefore .nil
      exact .word _ _ _
    | declaration hh hbody =>
      obtain ⟨head, body, rfl, hhead, hbody'⟩ := List.map_eq_append_iff.1 hbefore
      obtain ⟨name, span, ts', rfl, _⟩ := read_of_isHeading (.point 0) hh hhead (.statement .nil)
      exact .word _ _ _

theorem statementReadAll_of_read {stop : Span} {first : Lexeme} {s : Statement}
    (h : Statement.read stop first ts = .ok (s, rest)) :
    Statement.readAll stop (first :: ts) = (Statement.readAll stop rest).map (s :: ·) := by
  rw [Statement.readAll]
  split
  · rename_i e
    rw [h] at e
    cases e
  · rename_i e
    rw [h] at e
    cases e
    rfl

theorem readAll_of_derives {ss : List Statement} {used : List Token} (stop : Span)
    (h : Derives used ss) (hts : ts.map Lexeme.token = used) :
    ∃ ss', Statement.readAll stop ts = .ok ss' ∧
      ss'.map Statement.bare = ss.map Statement.bare := by
  induction h generalizing ts with
  | nil =>
    obtain rfl := List.map_eq_nil_iff.1 hts
    exact ⟨[], by rw [Statement.readAll], rfl⟩
  | cons hs hss ih =>
    obtain ⟨before, after, rfl, hbefore, hafter⟩ := List.map_eq_append_iff.1 hts
    -- What is behind the first statement is a document of its own.
    have hends : EndsStatement after := endsStatement_of_derives (hafter ▸ hss)
    obtain ⟨ss', hall, hbares⟩ := ih hafter
    obtain ⟨first, ts', rfl, s', hread, hbare⟩ := read_of_isStatement stop hs hbefore hends
    refine ⟨s' :: ss', ?_, ?_⟩
    · rw [List.cons_append, statementReadAll_of_read hread, hall]
      rfl
    · rw [List.map_cons, List.map_cons, hbare, hbares]

/-- The tokens of a document are accepted, and its statements are read, up to their spans. -/
theorem ofTokens_of_derives {ss : List Statement} (h : Derives (ts.map Lexeme.token) ss) :
    ∃ ss', Statement.ofTokens ts = .ok ss' ∧ ss'.map Statement.bare = ss.map Statement.bare :=
  readAll_of_derives _ h rfl

end BoxArrow.Grammar
