import BoxArrow.Proofs.Grammar.Basic
import BoxArrow.Proofs.Outcome
import BoxArrow.Statement.Reader

/-!
# What the readers accept

Every reader takes the tokens of its construct off the front of a list: what it took stands, by the
grammar, for what it returns, and the rest of the list is left as it was.

## Main results

* `Grammar.isBlock_of_readBlock` — a block is read with matching parentheses
* `Grammar.memberRead_cases`, `Grammar.statementRead_cases` — what may be read where
* `Grammar.isStatement_of_read` — a statement is read from tokens of that statement
* `Grammar.derives_of_ofTokens` — the tokens that are accepted are a document
-/

namespace BoxArrow.Grammar

/-- The tokens of a list are the tokens of `x`, for a rule of the grammar, before those of the
rest. -/
def Reads {α : Type} (rule : List Token → α → Prop) (ts : List Lexeme) (x : α)
    (rest : List Lexeme) : Prop :=
  ∃ used, ts.map Lexeme.token = used ++ rest.map Lexeme.token ∧ rule used x

/-- Tokens that close `depth` open parentheses and are balanced in between. -/
def Closes : Nat → List Token → Prop
  | 0, ts => Balanced ts
  | depth + 1, ts => ∃ inner rest, ts = inner ++ .rightParen :: rest ∧ Balanced inner ∧
      Closes depth rest

theorem Closes.token {depth : Nat} {t : Token} {ts : List Token} (hl : t ≠ .leftParen)
    (hr : t ≠ .rightParen) (h : Closes depth ts) : Closes depth (t :: ts) := by
  cases depth with
  | zero => exact Balanced.token hl hr h
  | succ depth =>
    obtain ⟨inner, rest, rfl, hinner, hrest⟩ := h
    exact ⟨t :: inner, rest, rfl, Balanced.token hl hr hinner, hrest⟩

theorem Closes.leftParen {depth : Nat} {ts : List Token} (h : Closes (depth + 1) ts) :
    Closes depth (.leftParen :: ts) := by
  obtain ⟨inner, rest, rfl, hinner, hrest⟩ := h
  cases depth with
  | zero => exact Balanced.parens hinner hrest
  | succ depth =>
    obtain ⟨inner', rest', rfl, hinner', hrest'⟩ := hrest
    refine ⟨.leftParen :: inner ++ .rightParen :: inner', rest', ?_, .parens hinner hinner', hrest'⟩
    simp

theorem closes_of_takeBlock {depth : Nat} {ts rest : List Lexeme} {tokens : List Token}
    {closed : Span} (h : takeBlock depth ts = some (tokens, closed, rest)) :
    Closes depth tokens ∧
      ts.map Lexeme.token = tokens ++ .rightParen :: rest.map Lexeme.token := by
  induction ts generalizing depth tokens with
  | nil => simp [takeBlock] at h
  | cons next ts ih =>
    -- However the depth goes on, the first token is taken and the rest is read by induction.
    have step {depth' : Nat} (h : (takeBlock depth' ts).map (Prod.map (next.token :: ·) id) =
        some (tokens, closed, rest)) : ∃ tokens', tokens = next.token :: tokens' ∧
          Closes depth' tokens' ∧
          ts.map Lexeme.token = tokens' ++ .rightParen :: rest.map Lexeme.token := by
      obtain ⟨⟨tokens', closed', rest'⟩, h', e⟩ := Option.map_eq_some_iff.1 h
      cases e
      exact ⟨tokens', rfl, ih h'⟩
    unfold takeBlock at h
    split at h
    case h_1 ht =>
      -- The outermost parenthesis is closed, and is not part of the block.
      cases h
      exact ⟨.nil, by simp [ht]⟩
    case h_2 ht =>
      -- An inner parenthesis is closed, with nothing before it on its level.
      obtain ⟨tokens', rfl, hcloses, hts⟩ := step h
      refine ⟨⟨[], tokens', ?_, .nil, hcloses⟩, ?_⟩
      · rw [ht]
        rfl
      · rw [List.map_cons, hts]
        rfl
    case h_3 ht =>
      obtain ⟨tokens', rfl, hcloses, hts⟩ := step h
      refine ⟨?_, ?_⟩
      · rw [ht]
        exact hcloses.leftParen
      · rw [List.map_cons, hts]
        rfl
    case h_4 depth _ _ hleft hzero hsucc =>
      -- Any other token is no parenthesis, or one of the cases before would apply.
      obtain ⟨tokens', rfl, hcloses, hts⟩ := step h
      have hright : next.token ≠ .rightParen := by
        intro e
        cases depth with
        | zero => exact hzero e rfl
        | succ depth => exact hsucc depth e rfl
      refine ⟨hcloses.token hleft hright, ?_⟩
      rw [List.map_cons, hts]
      rfl

/-- A block that is read has matching parentheses. -/
theorem isBlock_of_readBlock {stop opened span block : Span} {ts rest : List Lexeme}
    {text : String} (h : readBlock stop opened ts = .ok (text, block, rest)) :
    Reads IsBlock (⟨.leftParen, span⟩ :: ts) text rest := by
  unfold readBlock at h
  split at h
  · cases h
  · rename_i tokens closed rest' htake
    cases h
    obtain ⟨hcloses, hts⟩ := closes_of_takeBlock htake
    refine ⟨_, ?_, .mk hcloses⟩
    simp [hts]

theorem isType_of_readType {name : String} {ts rest : List Lexeme}
    {type : Option (String × Span)} (h : Heading.readType name ts = .ok (type, rest)) :
    Reads IsType ts (type.map Prod.fst) rest := by
  unfold Heading.readType at h
  split at h
  · cases h
    exact ⟨_, rfl, .present _⟩
  · cases h
  · cases h
    exact ⟨_, rfl, .absent⟩

theorem isTag_of_readTag {name : String} {ts rest : List Lexeme}
    {tag : Option (String × Span)} (h : Heading.readTag name ts = .ok (tag, rest)) :
    Reads IsTag ts (tag.map Prod.fst) rest := by
  unfold Heading.readTag at h
  split at h
  -- The sign that opens the next statement is left to it.
  · cases h
    exact ⟨_, rfl, .absent⟩
  · cases h
    exact ⟨_, rfl, .present _⟩
  · cases h
  · cases h
    exact ⟨_, rfl, .absent⟩

theorem isHeading_of_read {name : List Char} {span : Span} {ts rest : List Lexeme}
    {heading : Heading} (h : Heading.read (.ofList name) span ts = .ok (heading, rest)) :
    Reads IsHeading (⟨.identifier name, span⟩ :: ts) heading rest := by
  obtain ⟨⟨type, ts'⟩, htype, h⟩ := bind_eq_ok_iff.1 h
  obtain ⟨⟨tag, rest'⟩, htag, h⟩ := bind_eq_ok_iff.1 h
  cases h
  obtain ⟨types, hts, hisType⟩ := isType_of_readType htype
  obtain ⟨tags, hts', hisTag⟩ := isTag_of_readTag htag
  refine ⟨_, ?_, .mk hisType hisTag⟩
  simp [hts, hts']

/-! ### Connections -/

theorem isEnd_of_readTargetAnchor {span span' targetSpan : Span} {target : List Char}
    {ts rest : List Lexeme} {anchor : String}
    (h : Connection.readTargetAnchor span ts = .ok (anchor, span', rest)) :
    Reads (fun used => IsEnd used (.ofList target))
      (⟨.identifier target, targetSpan⟩ :: ts) anchor rest := by
  unfold Connection.readTargetAnchor at h
  split at h
  · cases h
    exact ⟨_, rfl, .anchored _ _⟩
  · cases h
  · cases h
    exact ⟨_, rfl, .plain _⟩

theorem isStyle_of_readStyle {stop span span' : Span} {ts rest : List Lexeme} {style : String}
    (h : Connection.readStyle stop span ts = .ok (style, span', rest)) :
    Reads IsStyle ts style rest := by
  unfold Connection.readStyle at h
  split at h
  · obtain ⟨⟨content, block, rest'⟩, hblock, h⟩ := bind_eq_ok_iff.1 h
    cases h
    obtain ⟨used, hts, hisBlock⟩ := isBlock_of_readBlock hblock
    exact ⟨used, hts, .present hisBlock⟩
  · cases h
    exact ⟨_, rfl, .absent⟩

theorem isConnection_of_readTarget {stop span arrow : Span} {source anchor : String}
    {used : List Token} {ts rest : List Lexeme} {c : Connection}
    (hsource : IsEnd used source anchor)
    (h : Connection.readTarget stop source span anchor arrow ts = .ok (c, rest)) :
    ∃ used', used ++ .arrow :: ts.map Lexeme.token = used' ++ rest.map Lexeme.token ∧
      IsConnection used' c := by
  unfold Connection.readTarget at h
  split at h
  · obtain ⟨⟨y, span', ts'⟩, hanchor, h⟩ := bind_eq_ok_iff.1 h
    obtain ⟨⟨text, span'', rest'⟩, hstyle, h⟩ := bind_eq_ok_iff.1 h
    cases h
    obtain ⟨target, hts, hisEnd⟩ := isEnd_of_readTargetAnchor hanchor
    obtain ⟨style, hts', hisStyle⟩ := isStyle_of_readStyle hstyle
    refine ⟨_, ?_, .mk hsource hisEnd hisStyle⟩
    rw [hts, hts']
    simp
  · cases h

theorem isConnection_of_read? {stop span : Span} {name : List Char} {ts rest : List Lexeme}
    {c : Connection} (h : Connection.read? stop (.ofList name) span ts = some (.ok (c, rest))) :
    Reads IsConnection (⟨.identifier name, span⟩ :: ts) c rest := by
  unfold Connection.read? at h
  split at h
  · exact isConnection_of_readTarget (.anchored _ _) (Option.some.inj h)
  -- An arrow right behind a dot is an error.
  · cases h
  · exact isConnection_of_readTarget (.plain _) (Option.some.inj h)
  · cases h

/-! ### Members and statements -/

/-- A member starts with a name, and is a connection or a declaration. -/
theorem memberRead_cases {stop opened : Span} {first : Lexeme} {ts rest : List Lexeme} {m : Member}
    (h : Member.read stop opened first ts = .ok (m, rest)) :
    ∃ name span, first = ⟨.identifier name, span⟩ ∧
      ((∃ c, m = .connection c ∧
        Connection.read? stop (.ofList name) span ts = some (.ok (c, rest))) ∨
      ∃ heading, m = .declaration heading ∧
        Heading.read (.ofList name) span ts = .ok (heading, rest)) := by
  obtain ⟨token, span⟩ := first
  unfold Member.read at h
  split at h
  · cases h
  · rename_i name htoken
    cases htoken
    refine ⟨name, span, rfl, ?_⟩
    split at h
    · rename_i hconnection
      obtain ⟨⟨c, rest'⟩, rfl, h⟩ := map_eq_ok_iff.1 h
      cases h
      exact .inl ⟨c, rfl, hconnection⟩
    · split at h
      · cases h
      · rename_i heading ts' hheading
        unfold Member.readEnd at h
        -- A member with a body of its own is an error.
        split at h <;> cases h
        exact .inr ⟨heading, rfl, hheading⟩
  · cases h

/-- Behind a heading stands its body, or it has none. -/
theorem readBody_cases {stop : Span} {heading : Heading} {ts rest : List Lexeme} {s : Statement}
    (h : Statement.readBody stop heading ts = .ok (s, rest)) :
    (∃ opened ts' ms, ts = ⟨.leftBrace, opened⟩ :: ts' ∧ s = .declaration heading (some ms) ∧
      Member.readAll stop opened ts' = .ok (ms, rest)) ∨
    s = .declaration heading none ∧ rest = ts := by
  unfold Statement.readBody at h
  split at h
  · obtain ⟨⟨ms, rest'⟩, hall, h⟩ := map_eq_ok_iff.1 h
    cases h
    exact .inl ⟨_, _, ms, rfl, rfl, hall⟩
  · cases h
    exact .inr ⟨rfl, rfl⟩

/-- A statement starts with the sign of a state declaration or with a name. -/
theorem statementRead_cases {stop : Span} {first : Lexeme} {ts rest : List Lexeme} {s : Statement}
    (h : Statement.read stop first ts = .ok (s, rest)) :
    (∃ start state, first = ⟨.atSign, start⟩ ∧ s = .state state ∧
      StateDeclaration.read stop start ts = .ok (state, rest)) ∨
    ∃ name span, first = ⟨.identifier name, span⟩ ∧
      ((∃ c, s = .connection c ∧
        Connection.read? stop (.ofList name) span ts = some (.ok (c, rest))) ∨
      ∃ heading ts', Heading.read (.ofList name) span ts = .ok (heading, ts') ∧
        Statement.readBody stop heading ts' = .ok (s, rest)) := by
  obtain ⟨token, span⟩ := first
  -- The cases are those of the first token. A name is first tried as that of a connection.
  unfold Statement.read at h
  split at h
  · rename_i htoken
    cases htoken
    obtain ⟨⟨state, rest'⟩, hstate, h⟩ := map_eq_ok_iff.1 h
    cases h
    exact .inl ⟨span, state, rfl, rfl, hstate⟩
  · cases h
  · rename_i name htoken
    cases htoken
    refine .inr ⟨name, span, rfl, ?_⟩
    split at h
    · rename_i hconnection
      obtain ⟨⟨c, rest'⟩, rfl, h⟩ := map_eq_ok_iff.1 h
      cases h
      exact .inl ⟨c, rfl, hconnection⟩
    · split at h
      · cases h
      · rename_i heading ts' hheading
        exact .inr ⟨heading, ts', hheading, h⟩
  · cases h

theorem isMember_of_read {stop opened : Span} {first : Lexeme} {ts rest : List Lexeme} {m : Member}
    (h : Member.read stop opened first ts = .ok (m, rest)) :
    Reads IsMember (first :: ts) m rest := by
  obtain ⟨name, span, rfl, ⟨c, rfl, hread⟩ | ⟨heading, rfl, hread⟩⟩ := memberRead_cases h
  · obtain ⟨used, hts, hc⟩ := isConnection_of_read? hread
    exact ⟨used, hts, .connection hc⟩
  · obtain ⟨used, hts, hh⟩ := isHeading_of_read hread
    exact ⟨used, hts, .declaration hh⟩

theorem areMembers_of_readAll {stop opened : Span} {ts rest : List Lexeme} {ms : List Member}
    (h : Member.readAll stop opened ts = .ok (ms, rest)) :
    ∃ used, ts.map Lexeme.token = used ++ .rightBrace :: rest.map Lexeme.token ∧
      AreMembers used ms := by
  fun_induction Member.readAll stop opened ts generalizing ms with
  | case1 => cases h
  | case2 => cases h; exact ⟨[], rfl, .nil⟩
  | case3 => cases h
  | case4 first ts _ m rest' hread ih =>
    obtain ⟨⟨ms', rest''⟩, hall, h⟩ := map_eq_ok_iff.1 h
    cases h
    obtain ⟨used, hts, hm⟩ := isMember_of_read hread
    obtain ⟨used', hts', hms⟩ := ih hall
    refine ⟨used ++ used', ?_, .cons hm hms⟩
    rw [hts, hts', List.append_assoc]

theorem isBody_of_readBody {stop : Span} {heading : Heading} {ts rest : List Lexeme}
    {s : Statement} (h : Statement.readBody stop heading ts = .ok (s, rest)) :
    ∃ ms, s = .declaration heading ms ∧ Reads IsBody ts ms rest := by
  obtain ⟨opened, ts', ms, rfl, rfl, hall⟩ | ⟨rfl, rfl⟩ := readBody_cases h
  · obtain ⟨used, hts, hms⟩ := areMembers_of_readAll hall
    refine ⟨_, rfl, _, ?_, .present hms⟩
    simp [hts]
  · exact ⟨none, rfl, [], rfl, .absent⟩

theorem isStatement_of_readState {stop start : Span} {ts rest : List Lexeme}
    {state : StateDeclaration} (h : StateDeclaration.read stop start ts = .ok (state, rest)) :
    ∃ used, .atSign :: ts.map Lexeme.token = used ++ rest.map Lexeme.token ∧
      IsStatement used (.state state) := by
  unfold StateDeclaration.read at h
  split at h
  · obtain ⟨⟨content, block, rest'⟩, hblock, h⟩ := bind_eq_ok_iff.1 h
    cases h
    obtain ⟨used, hts, hisBlock⟩ := isBlock_of_readBlock hblock
    refine ⟨_, ?_, .state hisBlock⟩
    rw [List.map_cons, hts]
    rfl
  all_goals cases h

/-- A statement is read from tokens that stand for it. -/
theorem isStatement_of_read {stop : Span} {first : Lexeme} {ts rest : List Lexeme} {s : Statement}
    (h : Statement.read stop first ts = .ok (s, rest)) :
    Reads IsStatement (first :: ts) s rest := by
  obtain ⟨start, state, rfl, rfl, hstate⟩ |
    ⟨name, span, rfl, ⟨c, rfl, hread⟩ | ⟨heading, ts', hread, hbody⟩⟩ := statementRead_cases h
  · exact isStatement_of_readState hstate
  · obtain ⟨used, hts, hc⟩ := isConnection_of_read? hread
    exact ⟨used, hts, .connection hc⟩
  · obtain ⟨used, hts, hh⟩ := isHeading_of_read hread
    obtain ⟨ms, rfl, used', hts', hbody⟩ := isBody_of_readBody hbody
    refine ⟨used ++ used', ?_, .declaration hh hbody⟩
    rw [hts, hts', List.append_assoc]

theorem derives_of_readAll {stop : Span} {ts : List Lexeme} {ss : List Statement}
    (h : Statement.readAll stop ts = .ok ss) : Derives (ts.map Lexeme.token) ss := by
  fun_induction Statement.readAll stop ts generalizing ss with
  | case1 => cases h; exact .nil
  | case2 => cases h
  | case3 first ts s rest' hread ih =>
    obtain ⟨ss', hall, rfl⟩ := map_eq_ok_iff.1 h
    obtain ⟨used, hts, hs⟩ := isStatement_of_read hread
    rw [hts]
    exact .cons hs (ih hall)

/-- A list of tokens that is accepted is a document of the statements that are read. -/
theorem derives_of_ofTokens {ts : List Lexeme} {ss : List Statement}
    (h : Statement.ofTokens ts = .ok ss) : Derives (ts.map Lexeme.token) ss :=
  derives_of_readAll h

end BoxArrow.Grammar
