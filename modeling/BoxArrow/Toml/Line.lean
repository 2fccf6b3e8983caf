import BoxArrow.Toml.Scalar
import BoxArrow.Toml.Token

/-!
# Lines of a settings file

A line is a header or sets a key. Values are read token by token, with the arrays and the tables
that are still open on a stack.

## Main definitions

* `Toml.Key.ofTokens?` — the key that tokens stand for
* `Toml.Value.ofTokens?` — the value that tokens stand for
* `Toml.Line` — a line without content, a header or a setting
* `Toml.Line.ofTokens?` — the line that tokens stand for
-/

namespace BoxArrow.Toml

/-- The greatest number of parts of a key, and of arrays and tables inside each other. -/
def maxDepth : Nat := 80

/-! ## Keys -/

namespace Key

/-- A character of a part without quotation marks. -/
def isBareChar (c : Char) : Bool := c.isAlphanum || c == '_' || c == '-'

/-- The parts of a key that a word stands for, with the dots between them as `none`. -/
def partsOfWord (word : List Char) : List (Option String) :=
  [none].intercalate ((word.splitOn '.').map fun part =>
    if part.isEmpty then [] else [some (String.ofList part)])

/-- The parts of a key and the dots that a token stands for. -/
def partsOf? : Token → Option (List (Option String))
  | .blank => some []
  | .string text => some [some text]
  | .word text =>
    if text.all fun c => isBareChar c || c == '.' then some (partsOfWord text) else none
  | _ => none

/-- The key with the given parts, between which dots must stand. -/
def ofParts? : List (Option String) → Option Key
  | [some name] => some ⟨[], name⟩
  | some part :: none :: rest => (ofParts? rest).map fun key => ⟨part :: key.path, key.name⟩
  | _ => none

/-- The key that tokens stand for. -/
def ofTokens? (tokens : List Token) : Option Key :=
  ((tokens.mapM partsOf?).bind fun parts => ofParts? parts.flatten).filter
    (·.parts.length ≤ maxDepth)

end Key

/-! ## Values -/

/-- A place for a value: the next item of an array, or a key of a table between braces. Items
come last first. -/
inductive Slot
  | item (before : List Value)
  | entry (before : Entries) (key : Key)
  deriving Inhabited

/-- What has been read of a value. The slots are those of the open arrays and tables, from the
innermost one outwards. -/
inductive Reading
  /-- A value comes next. -/
  | value (slots : List Slot)
  /-- An item or the end of an array comes next. -/
  | item (before : List Value) (slots : List Slot)
  /-- A comma or the end of an array comes next. -/
  | afterItem (items : List Value) (slots : List Slot)
  /-- The rest of a key, or the end of a table, comes next. -/
  | key (before : Entries) (tokens : List Token) (slots : List Slot)
  /-- A comma or the end of a table comes next. -/
  | afterEntry (entries : Entries) (slots : List Slot)
  /-- The value is complete. -/
  | complete (value : Value)
  deriving Inhabited

namespace Reading

/-- The reading after a value for the innermost slot. -/
def put? (value : Value) : List Slot → Option Reading
  | [] => some (.complete value)
  | .item before :: slots => some (.afterItem (value :: before) slots)
  | .entry before name :: slots => (before.assign? name value).map (.afterEntry · slots)

/-- The reading after the first token of a value for the innermost slot. -/
def start? (slots : List Slot) : Token → Option Reading
  | .word text => (Value.ofWord? text).bind (put? · slots)
  | .string text | .block text => put? (.string text) slots
  | .openBracket => if slots.length < maxDepth then some (.item [] slots) else none
  | .openBrace => if slots.length < maxDepth then some (.key [] [] slots) else none
  | _ => none

/-- The reading after one more token. Line ends count as blanks, except inside a key. -/
def step? : Reading → Token → Option Reading
  | reading, .blank => some reading
  | .value slots, token => if token = .lineEnd then some (.value slots) else start? slots token
  | .item before slots, token =>
    match token with
    | .lineEnd => some (.item before slots)
    | .closeBracket => put? (.array before.reverse) slots
    | token => start? (.item before :: slots) token
  | .afterItem items slots, token =>
    match token with
    | .lineEnd => some (.afterItem items slots)
    | .comma => some (.item items slots)
    | .closeBracket => put? (.array items.reverse) slots
    | _ => none
  | .key before tokens slots, token =>
    match token with
    | .lineEnd =>
      some (.key before (if tokens.isEmpty then [] else .lineEnd :: tokens) slots)
    | .closeBrace => if tokens.isEmpty then put? (.table .inline before) slots else none
    | .equals => do
      let name ← Key.ofTokens? (tokens.dropWhile (· = .lineEnd)).reverse
      return .value (.entry before name :: slots)
    | token => some (.key before (token :: tokens) slots)
  | .afterEntry entries slots, token =>
    match token with
    | .lineEnd => some (.afterEntry entries slots)
    | .comma => some (.key entries [] slots)
    | .closeBrace => put? (.table .inline entries) slots
    | _ => none
  | .complete _, _ => none

end Reading

/-- The value that tokens stand for. -/
def Value.ofTokens? (tokens : List Token) : Option Value :=
  match tokens.foldlM Reading.step? (.value []) with
  | some (.complete value) => some value
  | _ => none

/-! ## Lines -/

/-- A line of a settings file. -/
inductive Line
  | empty
  /-- The name of the table that the lines after it set keys of. -/
  | header (table : Key)
  /-- A header of one more table of a name. -/
  | nextHeader (table : Key)
  | setting (key : Key) (value : Value)
  deriving Inhabited

namespace Line

/-- The key of a header, whose tokens come after the opening brackets, and which a number of
closing brackets ends. Only blanks come after it. -/
def headerKey? (brackets : Nat) (tokens : List Token) : Option Key :=
  let (key, rest) := tokens.span (· ≠ .closeBracket)
  if rest.take brackets = List.replicate brackets .closeBracket ∧
      (rest.drop brackets).all (· = .blank) then
    Key.ofTokens? key
  else none

/-- The line that tokens stand for. -/
def ofTokens? (tokens : List Token) : Option Line :=
  match tokens.dropWhile (· = .blank) with
  | [] => some .empty
  | .openBracket :: .openBracket :: rest => (headerKey? 2 rest).map nextHeader
  | .openBracket :: rest => (headerKey? 1 rest).map header
  | tokens => do
    let (key, rest) := tokens.span (· ≠ .equals)
    return .setting (← Key.ofTokens? key) (← Value.ofTokens? rest.tail)

end Line

end BoxArrow.Toml
