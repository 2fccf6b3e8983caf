import BoxArrow.Text.Chars
import BoxArrow.Toml.Moment
import BoxArrow.Toml.Value

/-!
# Values of one word

A word is a truth value, a moment or a number. Underscores may separate the digits of a number.
The shape of an integer is looked at first, and loosely: next to an underscore a digit of any base
will do, and what follows the mark of a base may be empty. An integer of this shape that denotes
no number, and a number that is too large, is faulty.

## Main definitions

* `Toml.readNumber?` — the value of a word that looks like a number
* `Toml.Value.ofWord?` — the value that a word stands for
-/

namespace BoxArrow.Toml

/-- Whether every underscore stands between two digits. -/
def isGrouped (isDigit : Char → Bool) (text : List Char) : Bool :=
  let groups := text.splitOn '_'
  groups.tail.all (·.head?.any isDigit) && groups.dropLast.all (·.getLast?.any isDigit)

/-- A text without its underscores. -/
def dropUnderscores (text : List Char) : List Char := text.filter (· ≠ '_')

/-- Whether an integer fits into 128 bits, with a sign or without. -/
def inRange (n : Int) : Bool := -Int.pow 2 127 ≤ n && n < Int.pow 2 128

/-- The number that digits of a base denote, of which there must be one at least. -/
def readDigits? (base : Nat) (text : List Char) : Option Nat := do
  let digits ← text.mapM Text.hexDigit?
  guard (!digits.isEmpty && digits.all (· < base))
  return digits.foldl (fun n digit => base * n + digit) 0

/-- The integer that digits of a base denote, if there are any, all are digits of the base and the
integer is in range. -/
def ofDigits (base : Nat) (negative : Bool) (text : List Char) : Value :=
  match readDigits? base (dropUnderscores text) with
  | none => .faulty
  | some n =>
    let n : Int := if negative then -n else n
    if inRange n then .integer n else .faulty

/-- Whether a character is a digit of a base. -/
def isDigitOf (base : Nat) (c : Char) : Bool := (Text.hexDigit? c).any (· < base)

/-- The value of the digits after the mark of a base. There can be none. -/
def readBase? (base : Nat) (text : List Char) : Option Value :=
  if text.all (fun c => isDigitOf base c || c = '_') && isGrouped (isDigitOf base) text then
    some (ofDigits base false text)
  else none

/-- Whether a number has a superfluous zero before its first digits. -/
def hasLeadingZero (digits : List Char) : Bool := digits.head? = some '0' && digits.length ≠ 1

/-- The value of a decimal integer after its sign. -/
def readDecimal? (negative : Bool) (text : List Char) : Option Value :=
  let rest := text.dropWhile Char.isDigit
  if !text.isEmpty && (rest.isEmpty || rest.head? = some '_') && !hasLeadingZero text &&
      !text.contains ' ' && isGrouped (isDigitOf 16) text then
    some (ofDigits 10 negative text)
  else none

/-- The number that the digits after the point of a number denote, and the count of the digits. -/
def readFraction? : List Char → Option (Nat × Nat)
  | [] => some (0, 0)
  | _ :: digits => (Decimal.readNat? digits).map (·, digits.length)

/-- The exponent that the text after the mark of an exponent denotes. -/
def readExponent? : List Char → Option Int
  | [] => some 0
  | _ :: text => Decimal.readSigned? text

/-- The value of a floating point number after its sign. One beyond the largest finite number is
faulty. -/
def readFloat? (negative : Bool) (text : List Char) : Option Value := do
  let (significand, exponent) := (dropUnderscores text).span fun c => c ≠ 'e' && c ≠ 'E'
  let (whole, fraction) := significand.span (· ≠ '.')
  guard (isGrouped Char.isDigit text && !(text.head? = some '0' && whole.length ≠ 1))
  let high ← Decimal.readNat? whole
  let (low, places) ← readFraction? fraction
  let exponent ← readExponent? exponent
  let x := Decimal.toFloat ⟨high * Nat.pow 10 places + low, exponent - places⟩
  return if x.isInf then .faulty else .float (if negative then -x else x)

/-- The value of a word that looks like a number: an integer of a base that its second character
names, or else a decimal number with an optional sign. -/
def readNumber? (word : List Char) : Option Value :=
  match word with
  | '0' :: 'x' :: digits => readBase? 16 digits
  | '0' :: 'o' :: digits => readBase? 8 digits
  | '0' :: 'b' :: digits => readBase? 2 digits
  | _ =>
    let (negative, text) := Decimal.splitSign word
    if text.any fun c => c = '.' || c = 'e' || c = 'E' then readFloat? negative text
    else readDecimal? negative text

/-- The value that a word stands for. -/
def Value.ofWord? (word : List Char) : Option Value :=
  match String.ofList word with
  | "true" => some (.boolean true)
  | "false" => some (.boolean false)
  | "inf" | "+inf" => some (.float (1 / 0))
  | "-inf" => some (.float (-1 / 0))
  | "nan" | "+nan" | "-nan" => some (.float (0 / 0))
  | _ => if isMoment word then some .moment else readNumber? word

end BoxArrow.Toml
