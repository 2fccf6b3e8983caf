import BoxArrow.Proofs.Document.Contents
import BoxArrow.Proofs.Grammar.Soundness
import BoxArrow.Proofs.Token.Extent

/-!
# Where statements are read

A reader takes lexemes off the front of a list and leaves the others as they were. So every state
declaration, and every connection in a body or outside, is read from lexemes that stand one behind
the other at some place of the source, and its span covers just these.

## Main definitions

* `Grammar.Block` — the lexemes of a block with its parentheses
* `Grammar.StatePlace`, `Grammar.ConnectionPlace` — the place of a state declaration and of a
  connection among the lexemes of a source

## Main results

* `Grammar.exists_of_mem_readAll`, `Grammar.exists_readMember_of_mem`,
  `Grammar.exists_read?_of_mem` — a statement, a member and a connection are read at some place
* `Grammar.nonempty_statePlace` — so every state declaration has a place
* `Grammar.nonempty_connectionPlace_of_mem` — and every connection
-/

namespace BoxArrow.Grammar

open Lexeme (AreOrdered extent)

/-- The lexemes of a block: two parentheses, and between them others that match. -/
structure Block where
  opened : Span
  inner : List Lexeme
  closed : Span
  balanced : Balanced (inner.map Lexeme.token)

namespace Block

/-- The lexemes of a block, its parentheses included. -/
def lexemes (block : Block) : List Lexeme :=
  ⟨.leftParen, block.opened⟩ :: (block.inner ++ [⟨.rightParen, block.closed⟩])

/-- The text of a block, its parentheses left out. -/
def text (block : Block) : String := Token.render (block.inner.map Lexeme.token)

/-- The lexemes of a block that may be left out. -/
def lexemesOf (block : Option Block) : List Lexeme := block.elim [] lexemes

/-- The text of a block that may be left out. -/
def textOf (block : Option Block) : String := block.elim "" text

theorem lexemes_ne_nil (block : Block) : block.lexemes ≠ [] := List.cons_ne_nil _ _

theorem extent_lexemes {block : Block} (h : AreOrdered block.lexemes) :
    extent block.lexemes = block.opened.union block.closed :=
  (Lexeme.union_extent [_] block.inner [_] h (List.cons_ne_nil _ _)
    (List.cons_ne_nil _ _)).symm

/-- The lexemes of a block are a block of the grammar. -/
theorem isBlock (block : Block) : IsBlock (block.lexemes.map Lexeme.token) block.text := by
  rw [lexemes, List.map_cons, List.map_append]
  exact .mk block.balanced

end Block

variable {ts rest used : List Lexeme} {stop span span' : Span}

/-! ### Blocks -/

theorem exists_of_takeBlock {depth : Nat} {tokens : List Token} {closed : Span}
    (h : takeBlock depth ts = some (tokens, closed, rest)) :
    ∃ inner, ts = inner ++ ⟨.rightParen, closed⟩ :: rest ∧ inner.map Lexeme.token = tokens := by
  induction ts generalizing depth tokens with
  | nil => simp [takeBlock] at h
  | cons next ts ih =>
    have step {depth : Nat} (h : (takeBlock depth ts).map (Prod.map (next.token :: ·) id) =
        some (tokens, closed, rest)) :
        ∃ inner, next :: ts = inner ++ ⟨.rightParen, closed⟩ :: rest ∧
          inner.map Lexeme.token = tokens := by
      obtain ⟨⟨tokens', closed', rest'⟩, h', e⟩ := Option.map_eq_some_iff.1 h
      cases e
      obtain ⟨inner, rfl, hinner⟩ := ih h'
      exact ⟨next :: inner, rfl, by rw [List.map_cons, hinner]⟩
    unfold takeBlock at h
    split at h
    · rename_i htoken
      cases h
      exact ⟨[], by rw [← htoken]; rfl, rfl⟩
    all_goals exact step h

/-- A block is read from its lexemes, behind the parenthesis that opens it. -/
theorem exists_of_readBlock {opened span : Span} {text : String}
    (h : readBlock stop opened ts = .ok (text, span, rest)) :
    ∃ block : Block, block.opened = opened ∧
      ⟨.leftParen, opened⟩ :: ts = block.lexemes ++ rest ∧ text = block.text ∧
        span = block.opened.union block.closed := by
  unfold readBlock at h
  split at h
  · cases h
  · rename_i tokens closed rest' htake
    cases h
    obtain ⟨hcloses, -⟩ := closes_of_takeBlock htake
    obtain ⟨inner, rfl, rfl⟩ := exists_of_takeBlock htake
    exact ⟨⟨opened, inner, closed, hcloses⟩, rfl, by simp [Block.lexemes], rfl, rfl⟩

/-- What is read up to a block and the block after it, with lexemes between the two. -/
theorem union_extent_block (used middle : List Lexeme) (block : Block)
    (h : AreOrdered (used ++ middle ++ block.lexemes ++ rest)) (hused : used ≠ []) :
    (extent used).union (block.opened.union block.closed) =
      extent (used ++ middle ++ block.lexemes) := by
  have hordered := h.sublist (List.sublist_append_left _ _)
  rw [← Block.extent_lexemes (hordered.sublist (List.sublist_append_right _ _)),
    Lexeme.union_extent used middle block.lexemes hordered hused block.lexemes_ne_nil]

/-- A state declaration is read from its lexemes, and covers them. -/
theorem exists_of_readState {start : Span} {s : StateDeclaration}
    (hordered : AreOrdered (⟨.atSign, start⟩ :: ts))
    (h : StateDeclaration.read stop start ts = .ok (s, rest)) :
    ∃ name nameSpan, ∃ block : Block,
      ts = ⟨.identifier name, nameSpan⟩ :: block.lexemes ++ rest ∧ s.name = .ofList name ∧
        s.content = block.text ∧
          s.span = extent (⟨.atSign, start⟩ :: ⟨.identifier name, nameSpan⟩ :: block.lexemes) := by
  unfold StateDeclaration.read at h
  split at h
  · rename_i name nameSpan opened ts
    obtain ⟨⟨content, span, rest'⟩, hblock, h⟩ := bind_eq_ok_iff.1 h
    cases h
    obtain ⟨block, rfl, hts, rfl, rfl⟩ := exists_of_readBlock hblock
    rw [hts] at hordered ⊢
    exact ⟨name, nameSpan, block, rfl, rfl, rfl, union_extent_block [⟨.atSign, start⟩]
      [⟨.identifier name, nameSpan⟩] block hordered (List.cons_ne_nil _ _)⟩
  all_goals cases h

/-! ### Connections -/

/-- What is read up to a mark and a word behind it. -/
theorem union_extent_pair {l l' : Lexeme} (h : AreOrdered (used ++ l :: l' :: rest))
    (hused : used ≠ []) : (extent used).union l'.span = extent (used ++ [l, l']) := by
  have hunion := Lexeme.union_extent used [l] [l'] (h.sublist (by simp)) hused
    (List.cons_ne_nil _ _)
  rw [List.append_assoc] at hunion
  exact hunion

theorem exists_of_readTargetAnchor {anchor : String} (hordered : AreOrdered (used ++ ts))
    (hused : used ≠ [])
    (h : Connection.readTargetAnchor (extent used) ts = .ok (anchor, span, rest)) :
    ∃ own, ts = own ++ rest ∧ span = extent (used ++ own) ∧
      ∀ name, IsEnd (.identifier name :: own.map Lexeme.token) (.ofList name) anchor := by
  unfold Connection.readTargetAnchor at h
  split at h
  · rename_i dot anchor anchorSpan _
    cases h
    exact ⟨[⟨.dot, dot⟩, ⟨.identifier anchor, anchorSpan⟩], rfl, union_extent_pair hordered hused,
      fun name => .anchored name anchor⟩
  · cases h
  · cases h
    exact ⟨[], rfl, by rw [List.append_nil], fun name => .plain name⟩

theorem exists_of_readStyle {style : String} (hordered : AreOrdered (used ++ ts))
    (hused : used ≠ []) (h : Connection.readStyle stop (extent used) ts = .ok (style, span, rest)) :
    ∃ block, ts = Block.lexemesOf block ++ rest ∧ style = Block.textOf block ∧
      span = extent (used ++ Block.lexemesOf block) := by
  unfold Connection.readStyle at h
  split at h
  · obtain ⟨⟨content, span, rest'⟩, hblock, h⟩ := bind_eq_ok_iff.1 h
    cases h
    obtain ⟨block, rfl, hts, rfl, rfl⟩ := exists_of_readBlock hblock
    rw [hts] at hordered
    have hunion := union_extent_block used [] block (by simpa using hordered) hused
    rw [List.append_nil] at hunion
    exact ⟨some block, hts, rfl, hunion⟩
  · cases h
    exact ⟨none, rfl, rfl, by rw [Block.lexemesOf, Option.elim_none, List.append_nil]⟩

/-- The rest of a connection is read from its lexemes, behind those of its first end. -/
theorem exists_of_readTarget (first : Lexeme) (middle : List Lexeme) {tokens : List Token}
    {source anchor : String} {arrow : Span} {c : Connection}
    (hordered : AreOrdered (first :: middle ++ ts)) (hsource : IsEnd tokens source anchor)
    (hused : (first :: middle).map Lexeme.token = tokens ++ [.arrow])
    (h : Connection.readTarget stop source first.span anchor arrow ts = .ok (c, rest)) :
    ∃ own block, ts = own ++ Block.lexemesOf block ++ rest ∧
      IsConnection ((first :: middle ++ own).map Lexeme.token) { c with style := "" } ∧
        c.style = Block.textOf block ∧
          c.span = extent (first :: middle ++ own ++ Block.lexemesOf block) := by
  unfold Connection.readTarget at h
  split at h
  · rename_i target targetSpan ts
    obtain ⟨⟨targetAnchor, span, ts'⟩, hanchor, h⟩ := bind_eq_ok_iff.1 h
    obtain ⟨⟨style, span', rest'⟩, hstyle, h⟩ := bind_eq_ok_iff.1 h
    cases h
    -- The span begins as that of the two names, and covers what stands between them.
    have hnames : first.span.union targetSpan =
        extent (first :: middle ++ [⟨.identifier target, targetSpan⟩]) :=
      Lexeme.union_extent [first] middle [⟨.identifier target, targetSpan⟩]
        (hordered.sublist (by simp)) (List.cons_ne_nil _ _) (List.cons_ne_nil _ _)
    rw [List.append_cons] at hordered
    rw [hnames] at hanchor
    obtain ⟨own, rfl, rfl, hend⟩ := exists_of_readTargetAnchor hordered (by simp) hanchor
    rw [← List.append_assoc] at hordered
    obtain ⟨block, rfl, rfl, rfl⟩ := exists_of_readStyle hordered (by simp) hstyle
    refine ⟨⟨.identifier target, targetSpan⟩ :: own, block, by simp, ?_, rfl, by simp⟩
    have hconnection : IsConnection _ ⟨source, .ofText anchor, .ofList target, .ofText targetAnchor,
        "", extent (first :: middle ++ [⟨.identifier target, targetSpan⟩] ++ own ++
          Block.lexemesOf block)⟩ :=
      .mk hsource (hend target) .absent
    rw [List.append_nil, List.append_cons, ← hused] at hconnection
    simpa using hconnection
  · cases h

/-- The place of a state declaration among the lexemes of a source. -/
structure StatePlace (ls : List Lexeme) (s : StateDeclaration) where
  before : List Lexeme
  start : Span
  name : List Char
  nameSpan : Span
  block : Block
  after : List Lexeme
  lexemes_eq : ls =
    before ++ ⟨.atSign, start⟩ :: ⟨.identifier name, nameSpan⟩ :: block.lexemes ++ after
  name_eq : s.name = .ofList name
  content_eq : s.content = block.text
  span_eq : s.span = extent (⟨.atSign, start⟩ :: ⟨.identifier name, nameSpan⟩ :: block.lexemes)

/-- The place of a connection among the lexemes of a source, with its block if it has one. -/
structure ConnectionPlace (ls : List Lexeme) (c : Connection) where
  before : List Lexeme
  /-- The lexemes of the two ends, with the arrow between them. -/
  ends : List Lexeme
  block : Option Block
  after : List Lexeme
  lexemes_eq : ls = before ++ ends ++ Block.lexemesOf block ++ after
  isConnection : IsConnection (ends.map Lexeme.token) { c with style := "" }
  style_eq : c.style = Block.textOf block
  span_eq : c.span = extent (ends ++ Block.lexemesOf block)

/-- A connection is read from its lexemes, and covers them. -/
theorem exists_of_read? {name : List Char} {c : Connection}
    (hordered : AreOrdered (⟨.identifier name, span⟩ :: ts))
    (h : Connection.read? stop (.ofList name) span ts = some (.ok (c, rest))) :
    ∃ ends block, ⟨.identifier name, span⟩ :: ts = ends ++ Block.lexemesOf block ++ rest ∧
      IsConnection (ends.map Lexeme.token) { c with style := "" } ∧
        c.style = Block.textOf block ∧ c.span = extent (ends ++ Block.lexemesOf block) := by
  unfold Connection.read? at h
  split at h
  · rename_i dot anchor anchorSpan arrow ts
    obtain ⟨own, block, rfl, hc⟩ := exists_of_readTarget ⟨.identifier name, span⟩
      [⟨.dot, dot⟩, ⟨.identifier anchor, anchorSpan⟩, ⟨.arrow, arrow⟩] hordered
      (.anchored name anchor) rfl (Option.some.inj h)
    exact ⟨_, block, by simp, hc⟩
  · cases h
  · rename_i arrow ts
    obtain ⟨own, block, rfl, hc⟩ := exists_of_readTarget ⟨.identifier name, span⟩
      [⟨.arrow, arrow⟩] hordered (.plain name) rfl (Option.some.inj h)
    exact ⟨_, block, by simp, hc⟩
  · cases h

/-! ### Headings, members and statements -/

theorem suffix_of_readType {name : String} {type : Option (String × Span)}
    (h : Heading.readType name ts = .ok (type, rest)) : rest <:+ ts := by
  unfold Heading.readType at h
  split at h <;> cases h
  · exact List.suffix_append [_, _] rest
  · exact List.suffix_rfl

theorem suffix_of_readTag {name : String} {tag : Option (String × Span)}
    (h : Heading.readTag name ts = .ok (tag, rest)) : rest <:+ ts := by
  unfold Heading.readTag at h
  split at h <;> cases h
  · exact List.suffix_rfl
  · exact List.suffix_append [_, _] rest
  · exact List.suffix_rfl

theorem suffix_of_readHeading {name : String} {heading : Heading}
    (h : Heading.read name span ts = .ok (heading, rest)) : rest <:+ ts := by
  obtain ⟨⟨type, ts'⟩, htype, h⟩ := bind_eq_ok_iff.1 h
  obtain ⟨⟨tag, rest'⟩, htag, h⟩ := bind_eq_ok_iff.1 h
  cases h
  exact (suffix_of_readTag htag).trans (suffix_of_readType htype)

theorem suffix_of_readBlock {opened : Span} {text : String}
    (h : readBlock stop opened ts = .ok (text, span, rest)) : rest <:+ ts := by
  obtain ⟨block, -, hts, -⟩ := exists_of_readBlock h
  obtain ⟨-, rfl⟩ := List.cons.inj hts
  exact List.suffix_append _ rest

theorem suffix_of_readTargetAnchor {names : Span} {anchor : String}
    (h : Connection.readTargetAnchor names ts = .ok (anchor, span, rest)) : rest <:+ ts := by
  unfold Connection.readTargetAnchor at h
  split at h <;> cases h
  · exact List.suffix_append [_, _] rest
  · exact List.suffix_rfl

theorem suffix_of_readStyle {names : Span} {style : String}
    (h : Connection.readStyle stop names ts = .ok (style, span, rest)) : rest <:+ ts := by
  unfold Connection.readStyle at h
  split at h
  · obtain ⟨⟨content, span, rest'⟩, hblock, h⟩ := bind_eq_ok_iff.1 h
    cases h
    exact (suffix_of_readBlock hblock).trans (List.suffix_cons _ _)
  · cases h
    exact List.suffix_rfl

theorem suffix_of_readTarget {source anchor : String} {arrow : Span} {c : Connection}
    (h : Connection.readTarget stop source span anchor arrow ts = .ok (c, rest)) :
    rest <:+ ts := by
  unfold Connection.readTarget at h
  split at h
  · obtain ⟨⟨targetAnchor, span', ts'⟩, hanchor, h⟩ := bind_eq_ok_iff.1 h
    obtain ⟨⟨style, span'', rest'⟩, hstyle, h⟩ := bind_eq_ok_iff.1 h
    cases h
    have hsuffix := (suffix_of_readStyle hstyle).trans (suffix_of_readTargetAnchor hanchor)
    exact hsuffix.trans (List.suffix_cons _ _)
  · cases h

theorem suffix_of_read? {source : String} {c : Connection}
    (h : Connection.read? stop source span ts = some (.ok (c, rest))) : rest <:+ ts := by
  unfold Connection.read? at h
  split at h
  · exact (suffix_of_readTarget (Option.some.inj h)).trans (List.suffix_append [_, _, _] _)
  · cases h
  · exact (suffix_of_readTarget (Option.some.inj h)).trans (List.suffix_cons _ _)
  · cases h

theorem suffix_of_readMember {opened : Span} {first : Lexeme} {m : Member}
    (h : Member.read stop opened first ts = .ok (m, rest)) : rest <:+ ts := by
  obtain ⟨name, span, rfl, ⟨c, rfl, hread⟩ | ⟨heading, rfl, hread⟩⟩ := memberRead_cases h
  · exact suffix_of_read? hread
  · exact suffix_of_readHeading hread

theorem suffix_of_readMembers {opened : Span} {ms : List Member}
    (h : Member.readAll stop opened ts = .ok (ms, rest)) : rest <:+ ts := by
  fun_induction Member.readAll stop opened ts generalizing ms with
  | case1 => cases h
  | case2 => cases h; exact List.suffix_cons _ _
  | case3 => cases h
  | case4 first ts _ m rest' hread ih =>
    obtain ⟨⟨ms', rest''⟩, hall, h⟩ := map_eq_ok_iff.1 h
    cases h
    exact ((ih hall).trans (suffix_of_readMember hread)).trans (List.suffix_cons _ _)

theorem suffix_of_readState {start : Span} {s : StateDeclaration}
    (h : StateDeclaration.read stop start ts = .ok (s, rest)) : rest <:+ ts := by
  unfold StateDeclaration.read at h
  split at h
  · obtain ⟨⟨content, span, rest'⟩, hblock, h⟩ := bind_eq_ok_iff.1 h
    cases h
    exact (suffix_of_readBlock hblock).trans (List.suffix_append [_, _] _)
  all_goals cases h

theorem suffix_of_readBody {heading : Heading} {s : Statement}
    (h : Statement.readBody stop heading ts = .ok (s, rest)) : rest <:+ ts := by
  obtain ⟨opened, ts', ms, rfl, rfl, hall⟩ | ⟨rfl, rfl⟩ := readBody_cases h
  · exact (suffix_of_readMembers hall).trans (List.suffix_cons _ _)
  · exact List.suffix_rfl

theorem suffix_of_readStatement {first : Lexeme} {s : Statement}
    (h : Statement.read stop first ts = .ok (s, rest)) : rest <:+ ts := by
  obtain ⟨start, state, rfl, rfl, hread⟩ |
    ⟨name, span, rfl, ⟨c, rfl, hread⟩ | ⟨heading, ts', hread, hbody⟩⟩ := statementRead_cases h
  · exact suffix_of_readState hread
  · exact suffix_of_read? hread
  · exact (suffix_of_readBody hbody).trans (suffix_of_readHeading hread)

/-- A statement is read at some place of the source. -/
theorem exists_of_mem_readAll {ss : List Statement} {s : Statement}
    (h : Statement.readAll stop ts = .ok ss) (hs : s ∈ ss) :
    ∃ before first ts' rest, ts = before ++ first :: ts' ∧
      Statement.read stop first ts' = .ok (s, rest) := by
  fun_induction Statement.readAll stop ts generalizing ss with
  | case1 => cases h; cases hs
  | case2 => cases h
  | case3 first ts s' rest' hread ih =>
    obtain ⟨ss', hall, rfl⟩ := map_eq_ok_iff.1 h
    rcases List.mem_cons.1 hs with rfl | hs
    · exact ⟨[], first, ts, rest', rfl, hread⟩
    · obtain ⟨own, rfl⟩ := suffix_of_readStatement hread
      obtain ⟨before, first', ts', rest, rfl, hread'⟩ := ih hall hs
      exact ⟨first :: own ++ before, first', ts', rest, by simp, hread'⟩

/-- A member is read at some place of its body. -/
theorem exists_of_mem_readMembers {opened : Span} {ms : List Member} {m : Member}
    (h : Member.readAll stop opened ts = .ok (ms, rest)) (hm : m ∈ ms) :
    ∃ before first ts' rest', ts = before ++ first :: ts' ∧
      Member.read stop opened first ts' = .ok (m, rest') := by
  fun_induction Member.readAll stop opened ts generalizing ms with
  | case1 => cases h
  | case2 => cases h; cases hm
  | case3 => cases h
  | case4 first ts _ m' rest' hread ih =>
    obtain ⟨⟨ms', rest''⟩, hall, h⟩ := map_eq_ok_iff.1 h
    cases h
    rcases List.mem_cons.1 hm with rfl | hm
    · exact ⟨[], first, ts, rest', rfl, hread⟩
    · obtain ⟨own, rfl⟩ := suffix_of_readMember hread
      obtain ⟨before, first', ts', rest'', rfl, hread'⟩ := ih hall hm
      exact ⟨first :: own ++ before, first', ts', rest'', by simp, hread'⟩

/-- A member of a container is read at some place of the source. -/
theorem exists_readMember_of_mem {ss : List Statement} {heading : Heading} {ms : List Member}
    {m : Member} (h : Statement.readAll stop ts = .ok ss)
    (hs : .declaration heading (some ms) ∈ ss) (hm : m ∈ ms) :
    ∃ before first opened ts' rest, ts = before ++ first :: ts' ∧
      Member.read stop opened first ts' = .ok (m, rest) := by
  obtain ⟨before, first, ts', rest, rfl, hread⟩ := exists_of_mem_readAll h hs
  obtain ⟨_, _, -, hstate, -⟩ |
    ⟨name, span, rfl, ⟨_, hconnection, -⟩ | ⟨heading', ts'', hread, hbody⟩⟩ :=
      statementRead_cases hread
  · cases hstate
  · cases hconnection
  · obtain ⟨own, rfl⟩ := suffix_of_readHeading hread
    obtain ⟨opened, body, ms', rfl, hdeclaration, hall⟩ | ⟨hdeclaration, -⟩ := readBody_cases hbody
    · cases hdeclaration
      obtain ⟨before', first, ts', rest', rfl, hread'⟩ := exists_of_mem_readMembers hall hm
      exact ⟨before ++ ⟨.identifier name, span⟩ :: own ++ ⟨.leftBrace, opened⟩ :: before', first,
        opened, ts', rest', by simp, hread'⟩
    · cases hdeclaration

/-- A connection is read where its first name stands, in a body or outside. -/
theorem exists_read?_of_mem {ss : List Statement} {c : Connection}
    (h : Statement.readAll stop ts = .ok ss) (hc : c ∈ ss.flatMap Statement.connections) :
    ∃ before name span ts' rest, ts = before ++ ⟨.identifier name, span⟩ :: ts' ∧
      Connection.read? stop (.ofList name) span ts' = some (.ok (c, rest)) := by
  obtain ⟨s, hs, hc⟩ := List.mem_flatMap.1 hc
  -- A connection is a statement of its own or a member of the body of one.
  rcases s with _ | c' | ⟨heading, _ | ms⟩
  · cases hc
  · cases List.mem_singleton.1 hc
    obtain ⟨before, first, ts', rest, rfl, hread⟩ := exists_of_mem_readAll h hs
    obtain ⟨_, _, -, hstate, -⟩ |
      ⟨name, span, rfl, ⟨_, hconnection, hread⟩ | ⟨_, _, -, hbody⟩⟩ := statementRead_cases hread
    · cases hstate
    · cases hconnection
      exact ⟨before, name, span, ts', rest, rfl, hread⟩
    · obtain ⟨_, _, _, -, hdeclaration, -⟩ | ⟨hdeclaration, -⟩ := readBody_cases hbody
      · cases hdeclaration
      · cases hdeclaration
  · cases hc
  · obtain ⟨m, hm, hc⟩ := List.mem_filterMap.1 hc
    obtain ⟨before, first, opened, ts', rest, rfl, hread⟩ := exists_readMember_of_mem h hs hm
    obtain ⟨name, span, rfl, ⟨c', rfl, hread'⟩ | ⟨_, rfl, -⟩⟩ := memberRead_cases hread
    · cases hc
      exact ⟨before, name, span, ts', rest, rfl, hread'⟩
    · cases hc

/-! ### The places of blocks -/

/-- The declaration of every state has its place among the lexemes that are read. -/
theorem nonempty_statePlace {ss : List Statement} {s : StateDeclaration} (hordered : AreOrdered ts)
    (h : Statement.readAll stop ts = .ok ss) (hs : .state s ∈ ss) : Nonempty (StatePlace ts s) := by
  obtain ⟨before, first, ts', rest, rfl, hread⟩ := exists_of_mem_readAll h hs
  have hordered' := hordered.sublist (List.sublist_append_right before _)
  obtain ⟨start, state, rfl, hstate, hread⟩ |
    ⟨_, _, -, ⟨_, hconnection, -⟩ | ⟨_, _, -, hbody⟩⟩ := statementRead_cases hread
  · cases hstate
    obtain ⟨name, nameSpan, block, rfl, hname, hcontent, hspan⟩ :=
      exists_of_readState hordered' hread
    exact ⟨⟨before, start, name, nameSpan, block, rest, by simp, hname, hcontent, hspan⟩⟩
  · cases hconnection
  · obtain ⟨ms, hms, -⟩ := isBody_of_readBody hbody
    cases hms

/-- Every connection has its place among the lexemes that are read, in a body or outside. -/
theorem nonempty_connectionPlace_of_mem {ss : List Statement} {c : Connection}
    (hordered : AreOrdered ts) (h : Statement.readAll stop ts = .ok ss)
    (hc : c ∈ ss.flatMap Statement.connections) : Nonempty (ConnectionPlace ts c) := by
  obtain ⟨before, name, span, ts', rest, rfl, hread⟩ := exists_read?_of_mem h hc
  obtain ⟨ends, block, hts, hconnection, hstyle, hspan⟩ :=
    exists_of_read? (hordered.sublist (List.sublist_append_right before _)) hread
  exact ⟨⟨before, ends, block, rest, by rw [hts]; simp, hconnection, hstyle, hspan⟩⟩

end BoxArrow.Grammar
