import BoxArrow.Statement
import BoxArrow.SyntaxError
import BoxArrow.Token.Lexer

/-!
# From tokens to statements

The grammar is

* document: statements, one after the other
* statement: a state declaration `@name(tokens)`, a connection, or a declaration
* connection: `name.anchor --> name.anchor (tokens)`, where each `.anchor` and the block in
  parentheses may be left out
* declaration: `name : type @ state { members }`, where all but the name may be left out
* member: a connection, or a declaration without a body

A declaration is read where no connection can be: the two differ in whether an arrow follows the
name or the anchor. Once the arrow is read there is no way back. Reading stops at the first error.

## Main definitions

* `Statement.read` — one statement, from its first token
* `Statement.readAll` — all statements of a list of tokens
* `Statement.ofTokens` — the same, with errors at the end placed after the last token

## Main results

* `Statement.length_of_read`, `Member.length_of_read` — reading leaves fewer tokens
-/

namespace BoxArrow

/-- The span of the first token, or another one if there is no token. -/
def spanOr (otherwise : Span) : List Lexeme → Span
  | [] => otherwise
  | next :: _ => next.span

/-- The tokens up to the parenthesis that closes the outermost one of `depth + 1` open
parentheses, its span, and the tokens after it. -/
def takeBlock : Nat → List Lexeme → Option (List Token × Span × List Lexeme)
  | _, [] => none
  | depth, next :: rest =>
    match next.token, depth with
    | .rightParen, 0 => some ([], next.span, rest)
    | .rightParen, depth + 1 => (takeBlock depth rest).map (Prod.map (next.token :: ·) id)
    | .leftParen, depth => (takeBlock (depth + 1) rest).map (Prod.map (next.token :: ·) id)
    | _, depth => (takeBlock depth rest).map (Prod.map (next.token :: ·) id)

theorem length_of_takeBlock {depth : Nat} {ts rest : List Lexeme} {tokens : List Token}
    {closed : Span} (h : takeBlock depth ts = some (tokens, closed, rest)) :
    rest.length < ts.length := by
  induction ts generalizing depth tokens with
  | nil => simp [takeBlock] at h
  | cons next ts ih =>
    have step {depth : Nat} (h : (takeBlock depth ts).map (Prod.map (next.token :: ·) id) =
        some (tokens, closed, rest)) : rest.length < ts.length + 1 := by
      obtain ⟨⟨tokens', closed', rest'⟩, h', e⟩ := Option.map_eq_some_iff.1 h
      cases e
      exact Nat.lt_succ_of_lt (ih h')
    unfold takeBlock at h
    split at h
    · cases h
      simp
    all_goals exact step h

/-- The text of the block whose opening parenthesis is just read, the span of the block with its
parentheses, and the tokens after it. -/
def readBlock (stop opened : Span) (rest : List Lexeme) :
    Except SyntaxError (String × Span × List Lexeme) :=
  match takeBlock 0 rest with
  | none => .error (.unterminatedBlock stop opened)
  | some (tokens, closed, rest) => .ok (Token.render tokens, opened.union closed, rest)

theorem length_of_readBlock {stop opened block : Span} {ts rest : List Lexeme} {content : String}
    (h : readBlock stop opened ts = .ok (content, block, rest)) : rest.length < ts.length := by
  unfold readBlock at h
  split at h
  · cases h
  · rename_i h'
    cases h
    exact length_of_takeBlock h'

namespace Heading

/-- The type written after a name, if there is a colon. -/
def readType (name : String) :
    List Lexeme → Except SyntaxError (Option (String × Span) × List Lexeme)
  | ⟨.colon, _⟩ :: ⟨.identifier type, span⟩ :: rest => .ok (some (String.ofList type, span), rest)
  | ⟨.colon, span⟩ :: rest => .error (.missingType name (spanOr span rest))
  | rest => .ok (none, rest)

/-- The state written after a name and its type, if there is a sign `@` that does not start a
state declaration of its own. -/
def readTag (name : String) :
    List Lexeme → Except SyntaxError (Option (String × Span) × List Lexeme)
  -- The next statement is a state declaration, so the heading ends here.
  | ⟨.atSign, s⟩ :: ⟨.identifier n, t⟩ :: ⟨.leftParen, u⟩ :: rest =>
    .ok (none, ⟨.atSign, s⟩ :: ⟨.identifier n, t⟩ :: ⟨.leftParen, u⟩ :: rest)
  | ⟨.atSign, _⟩ :: ⟨.identifier tag, span⟩ :: rest => .ok (some (String.ofList tag, span), rest)
  | ⟨.atSign, span⟩ :: rest => .error (.missingTag name (spanOr span rest))
  | rest => .ok (none, rest)

/-- The span of a name with the spans of what is written after it. -/
def cover (span : Span) (part : Option (String × Span)) : Span :=
  part.elim span fun part => span.union part.2

/-- The declaration that starts with a name, up to its body. -/
def read (name : String) (span : Span) (rest : List Lexeme) :
    Except SyntaxError (Heading × List Lexeme) := do
  let (type, rest) ← readType name rest
  let (tag, rest) ← readTag name rest
  return (⟨name, type.map Prod.fst, tag.map Prod.fst, cover (cover span type) tag⟩, rest)

theorem length_of_readType {name : String} {ts rest : List Lexeme}
    {type : Option (String × Span)} (h : readType name ts = .ok (type, rest)) :
    rest.length ≤ ts.length := by
  unfold readType at h
  split at h <;> cases h <;> grind

theorem length_of_readTag {name : String} {ts rest : List Lexeme}
    {tag : Option (String × Span)} (h : readTag name ts = .ok (tag, rest)) :
    rest.length ≤ ts.length := by
  unfold readTag at h
  split at h <;> cases h <;> grind

theorem length_of_read {name : String} {span : Span} {ts rest : List Lexeme} {heading : Heading}
    (h : read name span ts = .ok (heading, rest)) : rest.length ≤ ts.length := by
  simp only [read, bind, Except.bind, pure, Except.pure] at h
  split at h
  · cases h
  · rename_i result htype
    split at h
    · cases h
    · rename_i result' htag
      cases h
      exact Nat.le_trans (length_of_readTag htag) (length_of_readType htype)

end Heading

namespace Connection

/-- The anchor of the target, if there is a dot. The span covers what is read. -/
def readTargetAnchor (span : Span) :
    List Lexeme → Except SyntaxError (String × Span × List Lexeme)
  | ⟨.dot, _⟩ :: ⟨.identifier anchor, anchorSpan⟩ :: rest =>
    .ok (String.ofList anchor, span.union anchorSpan, rest)
  | ⟨.dot, dot⟩ :: rest => .error (.missingAnchor (spanOr dot rest))
  | rest => .ok ("", span, rest)

/-- The block after the target, if there is a parenthesis. The span covers what is read. -/
def readStyle (stop span : Span) : List Lexeme → Except SyntaxError (String × Span × List Lexeme)
  | ⟨.leftParen, opened⟩ :: rest => do
    let (content, block, rest) ← readBlock stop opened rest
    return (content, span.union block, rest)
  | rest => .ok ("", span, rest)

/-- The rest of a connection, after its arrow. -/
def readTarget (stop : Span) (source : String) (span : Span) (anchor : String) (arrow : Span) :
    List Lexeme → Except SyntaxError (Connection × List Lexeme)
  | ⟨.identifier target, targetSpan⟩ :: rest => do
    let (targetAnchor, span, rest) ← readTargetAnchor (span.union targetSpan) rest
    let (style, span, rest) ← readStyle stop span rest
    return (⟨source, Anchor.ofText anchor, String.ofList target, Anchor.ofText targetAnchor, style,
      span⟩, rest)
  | rest => .error (.missingTarget (spanOr arrow rest))

/-- The connection that starts with a name, or nothing if no arrow follows the name or its
anchor. -/
def read? (stop : Span) (source : String) (span : Span) :
    List Lexeme → Option (Except SyntaxError (Connection × List Lexeme))
  | ⟨.dot, _⟩ :: ⟨.identifier anchor, _⟩ :: ⟨.arrow, arrow⟩ :: rest =>
    some (readTarget stop source span (String.ofList anchor) arrow rest)
  -- The dot and the arrow leave no doubt that a connection was meant.
  | ⟨.dot, _⟩ :: ⟨.arrow, arrow⟩ :: _ => some (.error (.missingAnchor arrow))
  | ⟨.arrow, arrow⟩ :: rest => some (readTarget stop source span "" arrow rest)
  | _ => none

theorem length_of_readTargetAnchor {span span' : Span} {ts rest : List Lexeme} {anchor : String}
    (h : readTargetAnchor span ts = .ok (anchor, span', rest)) : rest.length ≤ ts.length := by
  unfold readTargetAnchor at h
  split at h <;> cases h <;> grind

theorem length_of_readStyle {stop span span' : Span} {ts rest : List Lexeme} {style : String}
    (h : readStyle stop span ts = .ok (style, span', rest)) : rest.length ≤ ts.length := by
  unfold readStyle at h
  split at h
  · simp only [bind, Except.bind, pure, Except.pure] at h
    split at h
    · cases h
    · rename_i hblock
      cases h
      have := length_of_readBlock hblock
      simp only [List.length_cons]
      omega
  · cases h
    exact Nat.le_refl _

theorem length_of_readTarget {stop span arrow : Span} {source anchor : String}
    {ts rest : List Lexeme} {c : Connection}
    (h : readTarget stop source span anchor arrow ts = .ok (c, rest)) :
    rest.length ≤ ts.length := by
  unfold readTarget at h
  split at h
  · simp only [bind, Except.bind, pure, Except.pure] at h
    split at h
    · cases h
    · rename_i hanchor
      split at h
      · cases h
      · rename_i hstyle
        cases h
        have := length_of_readTargetAnchor hanchor
        have := length_of_readStyle hstyle
        simp only [List.length_cons]
        omega
  · cases h

theorem length_of_read? {stop span : Span} {source : String} {ts rest : List Lexeme}
    {c : Connection} (h : read? stop source span ts = some (.ok (c, rest))) :
    rest.length ≤ ts.length := by
  unfold read? at h
  split at h
  · have := length_of_readTarget (Option.some.inj h)
    simp only [List.length_cons]
    omega
  · cases h
  · have := length_of_readTarget (Option.some.inj h)
    simp only [List.length_cons]
    omega
  · cases h

end Connection

namespace StateDeclaration

/-- The rest of a state declaration, after its sign `@`. -/
def read (stop start : Span) : List Lexeme → Except SyntaxError (StateDeclaration × List Lexeme)
  | ⟨.identifier name, _⟩ :: ⟨.leftParen, opened⟩ :: rest => do
    let (content, block, rest) ← readBlock stop opened rest
    return (⟨String.ofList name, content, start.union block⟩, rest)
  | ⟨.identifier name, _⟩ :: next :: _ => .error (.missingBlock (String.ofList name) next.span)
  | [⟨.identifier _, _⟩] => .error (.endsBeforeBlock stop)
  | next :: _ => .error (.missingStateName next.span)
  | [] => .error (.endsBeforeStateName stop)

theorem length_of_read {stop start : Span} {ts rest : List Lexeme} {block : StateDeclaration}
    (h : read stop start ts = .ok (block, rest)) : rest.length ≤ ts.length := by
  unfold read at h
  split at h
  · simp only [bind, Except.bind, pure, Except.pure] at h
    split at h
    · cases h
    · rename_i hblock
      cases h
      have := length_of_readBlock hblock
      simp only [List.length_cons]
      omega
  all_goals cases h

end StateDeclaration

namespace Member

/-- The declaration whose heading is read, which no body may follow. -/
def readEnd (opened : Span) (heading : Heading) :
    List Lexeme → Except SyntaxError (Member × List Lexeme)
  | ⟨.leftBrace, brace⟩ :: _ => .error (.nestedContainer brace opened)
  | rest => .ok (declaration heading, rest)

/-- The member of a body that starts with a given token. -/
def read (stop opened : Span) (first : Lexeme) (rest : List Lexeme) :
    Except SyntaxError (Member × List Lexeme) :=
  match first.token, rest with
  | .atSign, ⟨.identifier _, _⟩ :: ⟨.leftParen, _⟩ :: _ =>
    .error (.stateInContainer first.span opened)
  | .identifier name, rest =>
    match Connection.read? stop (String.ofList name) first.span rest with
    | some result => result.map (Prod.map .connection id)
    | none =>
      match Heading.read (String.ofList name) first.span rest with
      | .error e => .error e
      | .ok (heading, rest) => readEnd opened heading rest
  | found, _ => .error (.unexpectedToken found first.span)

theorem length_of_readEnd {opened : Span} {heading : Heading} {ts rest : List Lexeme} {m : Member}
    (h : readEnd opened heading ts = .ok (m, rest)) : rest.length ≤ ts.length := by
  unfold readEnd at h
  split at h
  · cases h
  · cases h
    exact Nat.le_refl _

theorem length_of_read {stop opened : Span} {first : Lexeme} {ts rest : List Lexeme} {m : Member}
    (h : read stop opened first ts = .ok (m, rest)) : rest.length ≤ ts.length := by
  unfold read at h
  split at h
  · cases h
  · split at h
    · rename_i result hconnection
      cases result with
      | error e => cases h
      | ok result =>
        cases h
        exact Connection.length_of_read? hconnection
    · split at h
      · cases h
      · rename_i hheading
        exact Nat.le_trans (length_of_readEnd h) (Heading.length_of_read hheading)
  · cases h

/-- The members of a body, up to its closing brace. -/
def readAll (stop opened : Span) :
    List Lexeme → Except SyntaxError (List Member × List Lexeme)
  | [] => .error (.unterminatedContainer stop opened)
  | ⟨.rightBrace, _⟩ :: rest => .ok ([], rest)
  | first :: rest =>
    match _h : read stop opened first rest with
    | .error e => .error e
    | .ok (m, rest') => (readAll stop opened rest').map (Prod.map (m :: ·) id)
termination_by ts => ts.length
decreasing_by
  have := length_of_read _h
  simp only [List.length_cons]
  omega

theorem length_of_readAll {stop opened : Span} {ts rest : List Lexeme} {members : List Member}
    (h : readAll stop opened ts = .ok (members, rest)) : rest.length < ts.length := by
  fun_induction readAll stop opened ts generalizing members with
  | case1 => cases h
  | case2 => cases h; simp
  | case3 => cases h
  | case4 first ts _ m rest' hread ih =>
    cases hall : readAll stop opened rest' with
    | error e => rw [hall] at h; cases h
    | ok result =>
      rw [hall] at h
      cases h
      have := ih hall
      have := length_of_read hread
      simp only [List.length_cons]
      omega

end Member

namespace Statement

/-- The declaration whose heading is read, with its body if a brace follows. -/
def readBody (stop : Span) (heading : Heading) :
    List Lexeme → Except SyntaxError (Statement × List Lexeme)
  | ⟨.leftBrace, opened⟩ :: rest =>
    (Member.readAll stop opened rest).map (Prod.map (declaration heading ∘ some) id)
  | rest => .ok (declaration heading none, rest)

/-- The statement that starts with a given token. -/
def read (stop : Span) (first : Lexeme) (rest : List Lexeme) :
    Except SyntaxError (Statement × List Lexeme) :=
  match first.token with
  | .atSign => (StateDeclaration.read stop first.span rest).map (Prod.map state id)
  | .rightBrace => .error (.unmatchedBrace first.span)
  | .identifier name =>
    match Connection.read? stop (String.ofList name) first.span rest with
    | some result => result.map (Prod.map connection id)
    | none =>
      match Heading.read (String.ofList name) first.span rest with
      | .error e => .error e
      | .ok (heading, rest) => readBody stop heading rest
  | found => .error (.unexpectedToken found first.span)

theorem length_of_readBody {stop : Span} {heading : Heading} {ts rest : List Lexeme}
    {s : Statement} (h : readBody stop heading ts = .ok (s, rest)) : rest.length ≤ ts.length := by
  unfold readBody at h
  split at h
  · rename_i opened ts'
    cases hall : Member.readAll stop opened ts' with
    | error e => rw [hall] at h; cases h
    | ok result =>
      rw [hall] at h
      cases h
      have := Member.length_of_readAll hall
      simp only [List.length_cons, id]
      omega
  · cases h
    exact Nat.le_refl _

theorem length_of_read {stop : Span} {first : Lexeme} {ts rest : List Lexeme} {s : Statement}
    (h : read stop first ts = .ok (s, rest)) : rest.length ≤ ts.length := by
  unfold read at h
  split at h
  · cases hblock : StateDeclaration.read stop first.span ts with
    | error e => rw [hblock] at h; cases h
    | ok result =>
      rw [hblock] at h
      cases h
      exact StateDeclaration.length_of_read hblock
  · cases h
  · split at h
    · rename_i result hconnection
      cases result with
      | error e => cases h
      | ok result =>
        cases h
        exact Connection.length_of_read? hconnection
    · split at h
      · cases h
      · rename_i hheading
        exact Nat.le_trans (length_of_readBody h) (Heading.length_of_read hheading)
  · cases h

/-- All statements of a list of tokens. Errors at the end are placed at `stop`. -/
def readAll (stop : Span) : List Lexeme → Except SyntaxError (List Statement)
  | [] => .ok []
  | first :: rest =>
    match _h : read stop first rest with
    | .error e => .error e
    | .ok (s, rest') => (readAll stop rest').map (s :: ·)
termination_by ts => ts.length
decreasing_by
  have := length_of_read _h
  simp only [List.length_cons]
  omega

/-- The empty span after the last token, at the start if there is no token. -/
def stopOf (tokens : List Lexeme) : Span :=
  .point ((tokens.getLast?.map (·.span.stop)).getD 0)

/-- The statements of a list of tokens. -/
def ofTokens (tokens : List Lexeme) : Except SyntaxError (List Statement) :=
  readAll (stopOf tokens) tokens

end Statement

end BoxArrow
