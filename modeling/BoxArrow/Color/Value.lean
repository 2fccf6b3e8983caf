import BoxArrow.Decimal.Read
import BoxArrow.Text.Chars

/-!
# Values in color functions

The arguments of a color function are numbers, percentages, numbers with a unit, and bare words,
with spaces and comments `/*…*/` between them.

## Main definitions

* `Color.skipComments`, `Color.skipSpace` — the text after comments and spaces
* `Color.readIdent?`, `Color.readNumber?` — a word or a number at the start of a text
* `Color.Value`, `Color.Value.read?` — one argument
-/

namespace BoxArrow.Color

/-- The text after the end of the comment that it starts in. -/
def closeComment? : List Char → Option (List Char)
  | [] => none
  | '*' :: '/' :: text => some text
  | _ :: text => closeComment? text

theorem length_of_closeComment? {text rest : List Char} (h : closeComment? text = some rest) :
    rest.length < text.length := by
  fun_induction closeComment? text with
  | case1 => cases h
  | case2 => cases h; simp only [List.length_cons]; omega
  | case3 _ _ _ ih => exact Nat.lt_succ_of_lt (ih h)

/-- The text after the comments at its start, or nothing if one of them is not closed. -/
def skipComments? : List Char → Option (List Char)
  | '/' :: '*' :: text =>
    match _h : closeComment? text with
    | some rest => skipComments? rest
    | none => none
  | text => some text
termination_by text => text.length
decreasing_by
  have := length_of_closeComment? _h
  simp only [List.length_cons]
  omega

/-- A character that separates arguments. -/
def isSpace (c : Char) : Bool := c == ' ' || c == '\t' || c == '\r' || c == '\n'

/-- The text after the spaces and comments at its start, up to a comment that is not closed. -/
def skipSpace : List Char → List Char
  | '/' :: '*' :: text =>
    match _h : closeComment? text with
    | some rest => skipSpace rest
    | none => '/' :: '*' :: text
  | c :: text => if isSpace c then skipSpace text else c :: text
  | [] => []
termination_by text => text.length
decreasing_by
  · have := length_of_closeComment? _h
    simp only [List.length_cons]
    omega
  · simp

/-- The text after a given character, which comments may precede. -/
def skipChar? (c : Char) (text : List Char) : Option (List Char) :=
  match skipComments? text with
  | some (d :: rest) => if c = d then some rest else none
  | _ => none

/-- Whether a character may continue a word: a letter, `_`, `-`, or a digit. -/
def isIdentChar (c : Char) : Bool := c.isAlphanum || c == '_' || c == '-'

/-- Whether a character may start a word. -/
def isIdentStart (c : Char) : Bool := c.isAlpha || c == '_' || c == '-'

/-- The word at the start of a text, and the text after it. A digit may stand at the second place
only after a character that is not a hyphen. A hyphen alone is no word, and no word starts with
two hyphens. -/
def readIdent? : List Char → Option (List Char × List Char)
  | [] => none
  | '-' :: [] => none
  | '-' :: c :: text =>
    if isIdentStart c && c ≠ '-' then some ('-' :: c :: text.takeWhile isIdentChar,
      text.dropWhile isIdentChar)
    else none
  | c :: text =>
    if isIdentStart c then some (c :: text.takeWhile isIdentChar, text.dropWhile isIdentChar)
    else none

/-- The digits at the start of a text, and the text after them. -/
def readDigits (text : List Char) : List Nat × List Char :=
  ((text.takeWhile Char.isDigit).filterMap Decimal.digit?, text.dropWhile Char.isDigit)

/-- The fraction at the start of a text: a point with digits after it. -/
def readFraction (text : List Char) : List Nat × List Char :=
  match text with
  | '.' :: rest =>
    match readDigits rest with
    | ([], _) => ([], text)
    | result => result
  | _ => ([], text)

/-- The exponent at the start of a text: a letter `e`, a sign or none, and digits. -/
def readExponent (text : List Char) : Int × List Char :=
  match text with
  | c :: rest =>
    if c = 'e' || c = 'E' then
      let (negative, rest) := Decimal.splitSign rest
      match readDigits rest with
      | ([], _) => (0, text)
      | (digits, rest) =>
        (if negative then -(Decimal.ofDigits digits : Int) else Decimal.ofDigits digits, rest)
    else (0, text)
  | [] => (0, text)

/-- The number at the start of a text, comments aside, and the text after it. It has a digit
before or after its point. -/
def readNumber? (text : List Char) : Option (Float × List Char) := do
  let text ← skipComments? text
  let (negative, text) := Decimal.splitSign text
  let (whole, text) := readDigits text
  let (fraction, text) := readFraction text
  guard (!(whole ++ fraction).isEmpty)
  let (power, text) := readExponent text
  let value := Decimal.toFloat ⟨Decimal.ofDigits (whole ++ fraction), power - fraction.length⟩
  return (if negative then -value else value, text)

/-- An argument of a color function. -/
inductive Value
  | number (x : Float)
  | percent (x : Float)
  /-- A number with a unit, in lowercase. -/
  | dimension (unit : String)
  /-- A word, in lowercase. -/
  | symbol (name : String)

/-- The argument at the start of a text, and the text after it. -/
def Value.read? (text : List Char) : Option (Value × List Char) :=
  match readNumber? text with
  | some (x, '%' :: rest) => some (percent x, rest)
  | some (x, rest) =>
    match readIdent? rest with
    | some (unit, rest) => some (dimension (Text.asciiLower unit), rest)
    | none => some (number x, rest)
  | none => (readIdent? text).map fun (word, rest) => (symbol (Text.asciiLower word), rest)

end BoxArrow.Color
