import BoxArrow.Proofs.Outcome
import BoxArrow.Statement.Reader

/-!
# Reading with a way back

A reader that works without looking ahead tries one thing after the other: where no word stands it
turns back, and whoever called it may try something else or may give up for good. Nothing in its
shape tells that somebody always decides. The readers here follow the grammar in this way, token by
token, and look for the name of a connection, and again for that of a declaration, even where the
caller has seen a name before.

They read what the readers of statements read, and fail for good where those fail. So no reading
ever ends by turning back, and the finding that is kept ready for that case is never shown.

## Main definitions

* `Halt` — turning back, or failing for good
* `Halt.finding` — the finding for either, at the lexeme that reading stopped at
* `Tentative.statements` — the reader of all statements of a source

## Main results

* `Tentative.connection_of_read?_eq_none` — a connection that turns out to be none leaves no trace
* `Tentative.statements_eq` — both ways of reading have the same outcome
-/

namespace BoxArrow

/-- How a reader ends without a result. -/
inductive Halt
  /-- Something else stands here, and it may be tried. The names are of what was looked for. -/
  | back (expected : List String)
  /-- The source is wrong, whatever else is tried. -/
  | failed (e : SyntaxError)
  deriving DecidableEq, Repr

/-- The finding for a reading that ends with a number of lexemes left. One that has turned back to
the end is reported at the first lexeme that is left. -/
def Halt.finding (ts : List Lexeme) (left : Nat) : Halt → Finding
  | failed e => e.finding
  | back expected =>
    match ts[ts.length - left]?, expected with
    | some found, [] =>
      ⟨.error, some .unexpectedToken, "unexpected token `" ++ found.token.display ++ "`",
        [⟨found.span, "unexpected token", true⟩], none⟩
    | some found, expected =>
      ⟨.error, some .unexpectedToken,
        String.intercalate ", " (expected.map ("expected " ++ ·)),
        [⟨found.span, "found `" ++ found.token.display ++ "`", true⟩], none⟩
    | none, _ =>
      ⟨.error, some .incompleteInput, "unexpected end of input",
        [⟨Statement.stopOf ts, "input ends here", true⟩], none⟩

namespace Tentative

variable {stop span opened : Span} {name : String} {ts rest : List Lexeme}

/-! ### Steps -/

/-- A word with its span. -/
def word : List Lexeme → Except Halt (String × Span × List Lexeme)
  | ⟨.identifier name, span⟩ :: rest => .ok (.ofList name, span, rest)
  | _ => .error (.back ["identifier"])

/-- The span of the first token, if it is the given one. -/
def eat (t : Token) : List Lexeme → Option (Span × List Lexeme)
  | [] => none
  | next :: rest => if next.token = t then some (next.span, rest) else none

/-- Whether the given token stands next. -/
def stands (t : Token) (ts : List Lexeme) : Bool := ts.head?.any (·.token = t)

/-- Whether a state declaration starts here. -/
def startsState : List Lexeme → Bool
  | sign :: name :: paren :: _ =>
    sign.token = .atSign && name.token.isWord && paren.token = .leftParen
  | _ => false

/-- A part that must stand here: whoever turns back fails for good. -/
def require {α : Type} (e : SyntaxError) (x : Except Halt α) : Except Halt α :=
  x.mapError fun _ => .failed e

theorem word_cons (name : List Char) (span : Span) (rest : List Lexeme) :
    word (⟨.identifier name, span⟩ :: rest) = .ok (.ofList name, span, rest) :=
  rfl

theorem word_of_ne (h : ∀ name span rest, ts = ⟨.identifier name, span⟩ :: rest → False) :
    word ts = .error (.back ["identifier"]) := by
  unfold word
  split
  · exact absurd rfl (h _ _ _)
  · rfl

theorem eat_of_ne {t : Token} (h : ∀ span rest, ts = ⟨t, span⟩ :: rest → False) :
    eat t ts = none := by
  cases ts with
  | nil => rfl
  | cons next rest =>
    refine if_neg fun e => h next.span rest ?_
    rw [← e]

theorem stands_of_ne {t : Token} (h : ∀ span rest, ts = ⟨t, span⟩ :: rest → False) :
    stands t ts = false := by
  cases ts with
  | nil => rfl
  | cons next rest =>
    refine decide_eq_false fun e => h next.span rest ?_
    rw [← e]

theorem startsState_iff : startsState ts = true ↔ ∃ sign name nameSpan paren rest,
    ts = ⟨.atSign, sign⟩ :: ⟨.identifier name, nameSpan⟩ :: ⟨.leftParen, paren⟩ :: rest := by
  constructor
  · intro h
    unfold startsState at h
    split at h
    · rename_i sign name paren rest
      rw [Bool.and_eq_true, Bool.and_eq_true, decide_eq_true_iff, decide_eq_true_iff] at h
      obtain ⟨⟨hsign, hname⟩, hparen⟩ := h
      obtain ⟨_, sign⟩ := sign
      obtain ⟨name, nameSpan⟩ := name
      obtain ⟨_, paren⟩ := paren
      cases hsign
      cases hparen
      cases name with
      | identifier name => exact ⟨sign, name, nameSpan, paren, rest, rfl⟩
      | _ => cases hname
    · cases h
  · rintro ⟨sign, name, nameSpan, paren, rest, rfl⟩
    rfl

@[simp] theorem eat_cons (t : Token) (span : Span) (rest : List Lexeme) :
    eat t (⟨t, span⟩ :: rest) = some (span, rest) :=
  if_pos rfl

@[simp] theorem stands_cons (t : Token) (span : Span) (rest : List Lexeme) :
    stands t (⟨t, span⟩ :: rest) = true :=
  decide_eq_true rfl

/-! ### Parts of statements -/

/-- A block in parentheses. -/
def block (stop : Span) (ts : List Lexeme) : Except Halt (String × Span × List Lexeme) :=
  match eat .leftParen ts, ts with
  | some (opened, rest), _ => (readBlock stop opened rest).mapError .failed
  | none, next :: _ => .error (.failed (.unexpectedToken next.token next.span))
  | none, [] => .error (.failed (.endsBeforeBlock stop))

/-- The type of a declaration. -/
def type (name : String) (ts : List Lexeme) :
    Except Halt (Option (String × Span) × List Lexeme) :=
  match eat .colon ts with
  | none => .ok (none, ts)
  | some (colon, rest) => do
    let (type, span, rest) ← require (.missingType name (spanOr colon rest)) (word rest)
    return (some (type, span), rest)

/-- The state tag of a declaration. -/
def tag (name : String) (span : Span) (ts : List Lexeme) :
    Except Halt (Option (String × Span) × List Lexeme) :=
  if stands .atSign ts && !startsState ts then do
    let (sign, rest) := (eat .atSign ts).getD (span, ts)
    let (tag, span, rest) ← require (.missingTag name (spanOr sign rest)) (word rest)
    return (some (tag, span), rest)
  else .ok (none, ts)

/-- A declaration up to its body. -/
def heading (ts : List Lexeme) : Except Halt (Heading × List Lexeme) := do
  let (name, span, rest) ← word ts
  let (type, rest) ← type name rest
  let (tag, rest) ← tag name span rest
  return (⟨name, type.map Prod.fst, tag.map Prod.fst,
    Heading.cover (Heading.cover span type) tag⟩, rest)

/-- The anchor of the target of a connection. -/
def targetAnchor (span : Span) (ts : List Lexeme) :
    Except Halt (String × Span × List Lexeme) :=
  match eat .dot ts with
  | none => .ok ("", span, ts)
  | some (dot, rest) => do
    let (anchor, anchorSpan, rest) ← require (.missingAnchor (spanOr dot rest)) (word rest)
    return (anchor, span.union anchorSpan, rest)

/-- The block of a connection. -/
def style (stop span : Span) (ts : List Lexeme) : Except Halt (String × Span × List Lexeme) :=
  if stands .leftParen ts then do
    let (content, blockSpan, rest) ← block stop ts
    return (content, span.union blockSpan, rest)
  else .ok ("", span, ts)

/-- A connection from its arrow on. -/
def target (stop : Span) (source : String) (span : Span) (anchor : String) (ts : List Lexeme) :
    Except Halt (Connection × List Lexeme) := do
  let (arrow, rest) := (eat .arrow ts).getD (span, ts)
  let (target, targetSpan, rest) ← require (.missingTarget (spanOr arrow rest)) (word rest)
  let (targetAnchor, span, rest) ← targetAnchor (span.union targetSpan) rest
  let (style, span, rest) ← style stop span rest
  return (⟨source, Anchor.ofText anchor, target, Anchor.ofText targetAnchor, style, span⟩, rest)

/-- A connection, or nothing and all tokens left if no arrow is seen. A word after the dot is an
anchor only if it comes before an arrow. -/
def connection (stop : Span) (ts : List Lexeme) :
    Except Halt (Option Connection × List Lexeme) := do
  let (source, span, rest) ← word ts
  match eat .dot rest with
  | some (dot, rest) =>
    let (anchor, rest) :=
      match word rest with
      | .ok (anchor, _, rest) => (some anchor, rest)
      | .error _ => (none, rest)
    if stands .arrow rest then
      match anchor with
      | some anchor => (target stop source span anchor rest).map (Prod.map some id)
      | none => .error (.failed (.missingAnchor (spanOr dot rest)))
    else return (none, ts)
  | none =>
    if stands .arrow rest then (target stop source span "" rest).map (Prod.map some id)
    else return (none, ts)

/-- A state declaration. -/
def state (stop : Span) (ts : List Lexeme) : Except Halt (StateDeclaration × List Lexeme) := do
  let (start, rest) := (eat .atSign ts).getD (default, ts)
  let missing : SyntaxError :=
    match rest with
    | next :: _ => .missingStateName next.span
    | [] => .endsBeforeStateName stop
  let (name, _, rest) ← require missing (word rest)
  match rest with
  | next :: _ =>
    if next.token = .leftParen then
      let (content, blockSpan, rest) ← block stop rest
      return (⟨name, content, start.union blockSpan⟩, rest)
    else .error (.failed (.missingBlock name next.span))
  | [] => .error (.failed (.endsBeforeBlock stop))

theorem type_eq (name : String) (ts : List Lexeme) :
    type name ts = (Heading.readType name ts).mapError .failed := by
  fun_cases Heading.readType name ts with
  | case1 => rfl
  | case2 colon rest hword =>
    rw [type, eat_cons]
    dsimp only
    rw [word_of_ne hword]
    rfl
  | case3 _ _ hcolon =>
    rw [type, eat_of_ne hcolon]
    rfl

theorem tag_eq (name : String) (span : Span) (ts : List Lexeme) :
    tag name span ts = (Heading.readTag name ts).mapError .failed := by
  fun_cases Heading.readTag name ts with
  | case1 => rfl
  | case2 sign word wordSpan rest hparen =>
    have hstate : startsState (⟨.atSign, sign⟩ :: ⟨.identifier word, wordSpan⟩ :: rest) = false :=
      Bool.eq_false_iff.2 fun h => by
        obtain ⟨_, _, _, paren, rest', e⟩ := startsState_iff.1 h
        cases e
        exact hparen _ _ rfl
    rw [tag, stands_cons, hstate]
    rfl
  | case3 sign rest hstate hword =>
    have hstate : startsState (⟨.atSign, sign⟩ :: rest) = false :=
      Bool.eq_false_iff.2 fun h => by
        obtain ⟨_, _, _, _, _, e⟩ := startsState_iff.1 h
        cases e
        exact hstate _ _ _ _ rfl
    rw [tag, stands_cons, hstate, eat_cons]
    simp only [Bool.not_false, Bool.and_self, if_true, Option.getD_some, word_of_ne hword]
    rfl
  | case4 _ _ _ hsign =>
    rw [tag, stands_of_ne hsign]
    rfl

theorem heading_cons (name : List Char) (span : Span) (rest : List Lexeme) :
    heading (⟨.identifier name, span⟩ :: rest) =
      (Heading.read (.ofList name) span rest).mapError .failed := by
  simp only [heading, type_eq, tag_eq, Heading.read, bind_mapError]
  rfl

theorem targetAnchor_eq (span : Span) (ts : List Lexeme) :
    targetAnchor span ts = (Connection.readTargetAnchor span ts).mapError .failed := by
  fun_cases Connection.readTargetAnchor span ts with
  | case1 => rfl
  | case2 dot rest hword =>
    rw [targetAnchor, eat_cons]
    dsimp only
    rw [word_of_ne hword]
    rfl
  | case3 _ _ hdot =>
    rw [targetAnchor, eat_of_ne hdot]
    rfl

theorem style_eq (stop span : Span) (ts : List Lexeme) :
    style stop span ts = (Connection.readStyle stop span ts).mapError .failed := by
  fun_cases Connection.readStyle stop span ts with
  | case1 opened rest =>
    rw [bind_mapError]
    rfl
  | case2 _ hparen =>
    rw [style, stands_of_ne hparen]
    rfl

theorem target_cons (stop : Span) (source : String) (span : Span) (anchor : String) (arrow : Span)
    (rest : List Lexeme) : target stop source span anchor (⟨.arrow, arrow⟩ :: rest) =
      (Connection.readTarget stop source span anchor arrow rest).mapError .failed := by
  rw [target, eat_cons, Option.getD_some]
  fun_cases Connection.readTarget stop source span anchor arrow rest with
  | case1 target targetSpan rest =>
    simp only [targetAnchor_eq, style_eq, bind_mapError]
    rfl
  | case2 _ hword =>
    dsimp only
    rw [word_of_ne hword]
    rfl

/-- Where no arrow is seen, all tokens are left to the caller. -/
theorem connection_of_read?_eq_none {name : List Char}
    (h : Connection.read? stop (.ofList name) span ts = none) :
    connection stop (⟨.identifier name, span⟩ :: ts) =
      .ok (none, ⟨.identifier name, span⟩ :: ts) := by
  revert h
  fun_cases Connection.read? stop (.ofList name) span ts with
  | case1 | case2 | case3 => nofun
  | case4 _ hanchored hdot harrow =>
    intro _
    by_cases hts : ∃ dot rest, ts = ⟨.dot, dot⟩ :: rest
    · obtain ⟨dot, rest, rfl⟩ := hts
      by_cases hrest : ∃ anchor anchorSpan rest', rest = ⟨.identifier anchor, anchorSpan⟩ :: rest'
      · obtain ⟨anchor, anchorSpan, rest, rfl⟩ := hrest
        have hstands : stands .arrow rest = false :=
          stands_of_ne fun arrow rest' e => hanchored _ _ _ arrow rest' (by rw [e])
        simp only [connection, bind, Except.bind, word, eat_cons, hstands]
        rfl
      · have hword : word rest = .error (.back ["identifier"]) :=
          word_of_ne fun anchor anchorSpan rest' e => hrest ⟨anchor, anchorSpan, rest', e⟩
        have hstands : stands .arrow rest = false :=
          stands_of_ne fun arrow rest' e => hdot _ arrow rest' (by rw [e])
        simp only [connection, word_cons, bind, Except.bind, eat_cons, hword, hstands]
        rfl
    · have heat : eat .dot ts = none := eat_of_ne fun dot rest e => hts ⟨dot, rest, e⟩
      simp only [connection, word_cons, bind, Except.bind, heat, stands_of_ne harrow]
      rfl

theorem connection_of_read?_eq_some {name : List Char}
    {result : Except SyntaxError (Connection × List Lexeme)}
    (h : Connection.read? stop (.ofList name) span ts = some result) :
    connection stop (⟨.identifier name, span⟩ :: ts) =
      (result.mapError .failed).map (Prod.map some id) := by
  revert h
  fun_cases Connection.read? stop (.ofList name) span ts with
  | case1 dot anchor anchorSpan arrow rest =>
    rintro ⟨⟩
    rw [← target_cons]
    rfl
  | case2 dot arrow rest =>
    rintro ⟨⟩
    rfl
  | case3 arrow rest =>
    rintro ⟨⟩
    rw [← target_cons]
    rfl
  | case4 => nofun

theorem state_cons (stop start : Span) (rest : List Lexeme) :
    state stop (⟨.atSign, start⟩ :: rest) =
      (StateDeclaration.read stop start rest).mapError .failed := by
  fun_cases StateDeclaration.read stop start rest with
  | case1 name nameSpan opened rest =>
    rw [bind_mapError]
    rfl
  | case2 name nameSpan next rest hparen =>
    have hnext : next.token ≠ .leftParen := fun e => hparen next.span (by rw [← e])
    simp only [state, eat_cons, Option.getD_some, word_cons, require, mapError_ok,
      mapError_error, bind, Except.bind, if_neg hnext]
  | case3 name nameSpan => rfl
  | case4 next rest hparen hnext hend =>
    have hword : word (next :: rest) = .error (.back ["identifier"]) := by
      refine word_of_ne fun name nameSpan rest' e => ?_
      obtain ⟨rfl, rfl⟩ := List.cons.inj e
      cases rest with
      | nil => exact hend _ _ rfl rfl
      | cons next rest => exact hnext _ _ _ _ rfl rfl
    simp only [state, eat_cons, Option.getD_some, hword]
    rfl
  | case5 => rfl

/-! ### Members and statements -/

/-- The declaration whose heading is read, which no body may follow. -/
def withoutBody (opened : Span) (heading : Heading) (ts : List Lexeme) :
    Except Halt (Member × List Lexeme) :=
  match eat .leftBrace ts with
  | some (brace, _) => .error (.failed (.nestedContainer brace opened))
  | none => .ok (.declaration heading, ts)

/-- What is tried for a member of a body, in view of its first token. -/
def member (stop opened : Span) (next : Lexeme) (rest : List Lexeme) :
    Except Halt (Member × List Lexeme) :=
  match next.token, startsState (next :: rest) with
  | .atSign, true => .error (.failed (.stateInContainer next.span opened))
  | .identifier _, _ => do
    match ← connection stop (next :: rest) with
    | (some c, rest) => return (.connection c, rest)
    | (none, ts) =>
      let (heading, rest) ← heading ts
      withoutBody opened heading rest
  | found, _ => .error (.failed (.unexpectedToken found next.span))

theorem withoutBody_eq (opened : Span) (heading : Heading) (ts : List Lexeme) :
    withoutBody opened heading ts = (Member.readEnd opened heading ts).mapError .failed := by
  fun_cases Member.readEnd opened heading ts with
  | case1 => rfl
  | case2 _ hbrace =>
    rw [withoutBody, eat_of_ne hbrace]
    rfl

theorem member_eq (stop opened : Span) (next : Lexeme) (rest : List Lexeme) :
    member stop opened next rest = (Member.read stop opened next rest).mapError .failed := by
  obtain ⟨token, span⟩ := next
  -- The first case is a state inside a body, which both readers refuse before anything else.
  fun_cases Member.read stop opened ⟨token, span⟩ rest with
  | case1 name nameSpan paren rest htoken =>
    cases htoken
    rfl
  | case2 name _ htoken result hread =>
    cases htoken
    simp only [member, connection_of_read?_eq_some hread]
    cases result <;> rfl
  | case3 name _ htoken hread e hheading =>
    cases htoken
    simp only [member, connection_of_read?_eq_none hread, bind, Except.bind, heading_cons, hheading]
    rfl
  | case4 name _ htoken hread heading rest' hheading =>
    cases htoken
    simp only [member, connection_of_read?_eq_none hread, bind, Except.bind, heading_cons, hheading,
      mapError_ok, withoutBody_eq]
  | case5 _ hword hstate =>
    unfold member
    split
    · rename_i htoken hstarts
      obtain ⟨_, _, _, _, _, e⟩ := startsState_iff.1 hstarts
      cases e
      exact absurd rfl (hstate _ _ _ _ rfl)
    · rename_i name htoken
      exact absurd htoken (hword _)
    · rfl

/-- The members of a body, up to its closing brace. -/
def members (stop opened : Span) : List Lexeme → Except Halt (List Member × List Lexeme)
  | [] => .error (.failed (.unterminatedContainer stop opened))
  | ⟨.rightBrace, _⟩ :: rest => .ok ([], rest)
  | next :: rest =>
    match _h : member stop opened next rest with
    | .error halt => .error halt
    | .ok (m, rest') => (members stop opened rest').map (Prod.map (m :: ·) id)
termination_by ts => ts.length
decreasing_by
  rw [member_eq] at _h
  have := Member.length_of_read (mapError_eq_ok_iff.1 _h)
  simp only [List.length_cons]
  omega

/-- The declaration whose heading is read, with its body if a brace follows. -/
def withBody (stop : Span) (heading : Heading) (ts : List Lexeme) :
    Except Halt (Statement × List Lexeme) :=
  match eat .leftBrace ts with
  | some (brace, rest) =>
    (members stop brace rest).map (Prod.map (Statement.declaration heading ∘ some) id)
  | none => .ok (.declaration heading none, ts)

/-- What is tried for a statement, in view of its first token. -/
def statement (stop : Span) (next : Lexeme) (rest : List Lexeme) :
    Except Halt (Statement × List Lexeme) :=
  match next.token with
  | .atSign => (state stop (next :: rest)).map (Prod.map Statement.state id)
  | .rightBrace => .error (.failed (.unmatchedBrace next.span))
  | .identifier _ => do
    match ← connection stop (next :: rest) with
    | (some c, rest) => return (.connection c, rest)
    | (none, ts) =>
      let (heading, rest) ← heading ts
      withBody stop heading rest
  | found => .error (.failed (.unexpectedToken found next.span))

theorem members_cons {next : Lexeme} (h : ∀ span, next = ⟨.rightBrace, span⟩ → False) :
    members stop opened (next :: rest) = member stop opened next rest >>= fun result =>
      (members stop opened result.2).map (Prod.map (result.1 :: ·) id) := by
  rw [members]
  · split <;> rename_i hmember <;> rw [hmember] <;> rfl
  · exact h

theorem members_eq (stop opened : Span) (ts : List Lexeme) :
    members stop opened ts = (Member.readAll stop opened ts).mapError .failed := by
  fun_induction Member.readAll stop opened ts with
  | case1 => rw [members]; rfl
  | case2 => rw [members]; rfl
  | case3 first ts hbrace e hread =>
    rw [members_cons hbrace, member_eq, hread]
    rfl
  | case4 first ts hbrace m rest' hread ih =>
    rw [members_cons hbrace, member_eq, hread, map_mapError, ← ih]
    rfl

theorem withBody_eq (stop : Span) (heading : Heading) (ts : List Lexeme) :
    withBody stop heading ts = (Statement.readBody stop heading ts).mapError .failed := by
  fun_cases Statement.readBody stop heading ts with
  | case1 brace rest =>
    rw [withBody, eat_cons, map_mapError, ← members_eq]
  | case2 _ hbrace =>
    rw [withBody, eat_of_ne hbrace]
    rfl

theorem statement_eq (stop : Span) (next : Lexeme) (rest : List Lexeme) :
    statement stop next rest = (Statement.read stop next rest).mapError .failed := by
  obtain ⟨token, span⟩ := next
  -- A connection that is not seen ahead is one whose attempt turns back before its arrow.
  fun_cases Statement.read stop ⟨token, span⟩ rest with
  | case1 htoken =>
    cases htoken
    rw [map_mapError, ← state_cons]
    rfl
  | case2 htoken =>
    cases htoken
    rfl
  | case3 name htoken result hread =>
    cases htoken
    simp only [statement, connection_of_read?_eq_some hread]
    cases result <;> rfl
  | case4 name htoken hread e hheading =>
    cases htoken
    simp only [statement, connection_of_read?_eq_none hread, bind, Except.bind, heading_cons,
      hheading]
    rfl
  | case5 name htoken hread heading rest' hheading =>
    cases htoken
    simp only [statement, connection_of_read?_eq_none hread, bind, Except.bind, heading_cons,
      hheading, mapError_ok, withBody_eq]
  | case6 hsign hbrace hword =>
    unfold statement
    split
    · rename_i htoken
      exact absurd htoken hsign
    · rename_i htoken
      exact absurd htoken hbrace
    · rename_i htoken
      exact absurd htoken (hword _)
    · rfl

/-- All statements of a list of tokens. -/
def statements (stop : Span) : List Lexeme → Except Halt (List Statement)
  | [] => .ok []
  | next :: rest =>
    match _h : statement stop next rest with
    | .error halt => .error halt
    | .ok (s, rest') => (statements stop rest').map (s :: ·)
termination_by ts => ts.length
decreasing_by
  rw [statement_eq] at _h
  have := Statement.length_of_read (mapError_eq_ok_iff.1 _h)
  simp only [List.length_cons]
  omega

theorem statements_cons (stop : Span) (next : Lexeme) (rest : List Lexeme) :
    statements stop (next :: rest) = statement stop next rest >>= fun result =>
      (statements stop result.2).map (result.1 :: ·) := by
  rw [statements]
  split <;> rename_i hstatement <;> rw [hstatement] <;> rfl

theorem statements_eq_readAll (stop : Span) (ts : List Lexeme) :
    statements stop ts = (Statement.readAll stop ts).mapError .failed := by
  fun_induction Statement.readAll stop ts with
  | case1 =>
    rw [statements]
    rfl
  | case2 first ts e hread =>
    rw [statements_cons, statement_eq, hread]
    rfl
  | case3 first ts s rest' hread ih =>
    rw [statements_cons, statement_eq, hread, map_mapError, ← ih]
    rfl

/-- Both ways of reading have the same outcome: a reader that turns back is always called by one
that knows what else to try. -/
theorem statements_eq (ts : List Lexeme) :
    statements (Statement.stopOf ts) ts = (Statement.ofTokens ts).mapError .failed :=
  statements_eq_readAll _ ts

end Tentative

end BoxArrow
