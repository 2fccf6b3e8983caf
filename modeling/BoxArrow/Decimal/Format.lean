import BoxArrow.Decimal.Shortest

/-!
# Numbers as text

A number is written with its shortest digits, in positional form or with an exponent. A format
says which, and how the special values are written.

## Main definitions

* `Decimal.Format` — the choices that a kind of output makes
* `Decimal.Format.write` — the text of a binary32 number
-/

namespace BoxArrow.Decimal

/-- How a kind of output writes numbers. -/
structure Format where
  /-- The choice between two shortest decimals that are equally near. -/
  tie : TieRule
  /-- The least and the first too large power of ten of a leading digit in positional form. With
  `none` every number is in positional form. -/
  positional : Option (Int × Int)
  /-- What follows the digits of a whole number in positional form. -/
  wholeEnd : String
  /-- What precedes an exponent that is not negative. -/
  exponentSign : String
  /-- The text of negative zero. -/
  negativeZero : String
  /-- The text of what is no number. -/
  nan : String
  /-- The text of infinity, after the sign if it is negative. -/
  infinity : String

namespace Format

/-- A number of zeros. -/
def zeros (n : Nat) : String := String.ofList (List.replicate n '0')

/-- The digits of a decimal, with as many zeros as their place needs. -/
def writePositional (format : Format) (d : Decimal) : String :=
  let digits := Nat.toDigits 10 d.digits
  if 0 ≤ d.exponent then
    String.ofList digits ++ zeros d.exponent.toNat ++ format.wholeEnd
  else
    let places := (-d.exponent).toNat
    if places < digits.length then
      String.ofList (digits.take (digits.length - places)) ++ "." ++
        String.ofList (digits.drop (digits.length - places))
    else "0." ++ zeros (places - digits.length) ++ String.ofList digits

/-- The digits of a decimal with a point after the first one, and the power of ten of that
digit. -/
def writeScientific (format : Format) (d : Decimal) : String :=
  let digits := Nat.toDigits 10 d.digits
  let power : Int := d.exponent + digits.length - 1
  let tail := String.ofList digits.tail
  String.ofList (digits.take 1) ++ (if tail.isEmpty then "" else "." ++ tail) ++ "e" ++
    (if power < 0 then "-" else format.exponentSign) ++ toString power.natAbs

/-- Whether a decimal is written in positional form. -/
def isPositional (format : Format) (d : Decimal) : Bool :=
  match format.positional with
  | none => true
  | some (least, bound) =>
    let power : Int := d.exponent + (Nat.toDigits 10 d.digits).length - 1
    least ≤ power && power < bound

/-- The text of a decimal that is not negative. -/
def writeDecimal (format : Format) (d : Decimal) : String :=
  if format.isPositional d then format.writePositional d else format.writeScientific d

/-- The text of a binary32 number: its shortest digits in the form that the format chooses. -/
def write (format : Format) (x : Float32) : String :=
  match Binary.ofFloat32 x with
  | .nan => format.nan
  | .infinite negative => (if negative then "-" else "") ++ format.infinity
  | .finite true 0 _ => format.negativeZero
  | .finite false 0 _ => format.writePositional ⟨0, 0⟩
  | .finite negative mantissa power =>
    (if negative then "-" else "") ++ format.writeDecimal (shortest format.tie mantissa power)

end Format

end BoxArrow.Decimal
