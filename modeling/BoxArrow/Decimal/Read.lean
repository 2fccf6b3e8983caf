import BoxArrow.Decimal.Shortest
import BoxArrow.Text.Chars

/-!
# Numbers from text

## Main definitions

* `Decimal.readInteger?` — a signed decimal integer in the range of 64 bits
* `Decimal.toFloat`, `Decimal.toFloat32` — the binary number nearest to a decimal
* `Decimal.readFloat32?` — the binary32 number nearest to a number with a point and an exponent

## Main results

* `Decimal.readInteger?_range` — what is read lies in the range
-/

namespace BoxArrow.Decimal

/-- The value of a decimal digit. -/
def digit? (c : Char) : Option Nat :=
  if '0' ≤ c ∧ c ≤ '9' then some (c.toNat - '0'.toNat) else none

/-- The number that a list of decimal digits denotes. -/
def ofDigits (digits : List Nat) : Nat := digits.foldl (fun n d => 10 * n + d) 0

/-- The number written with ASCII digits, at least one. -/
def readNat? (text : List Char) : Option Nat :=
  if text.isEmpty then none else (text.mapM digit?).map ofDigits

/-- A sign, if one is written, and the text after it. -/
def splitSign : List Char → Bool × List Char
  | '-' :: text => (true, text)
  | '+' :: text => (false, text)
  | text => (false, text)

/-- Whether an integer fits into 64 bits. -/
def inRange (n : Int) : Bool := -Int.pow 2 63 ≤ n && n < Int.pow 2 63

/-- A decimal integer of any size: at most one sign, then ASCII digits, and nothing else. -/
def readSigned? (text : List Char) : Option Int :=
  let (negative, digits) := splitSign text
  (readNat? digits).map fun n => if negative then -(n : Int) else n

/-- A decimal integer that fits into 64 bits. -/
def readInteger? (text : List Char) : Option Int := (readSigned? text).filter inRange

theorem readInteger?_range {text : List Char} {n : Int} (h : readInteger? text = some n) :
    -Int.pow 2 63 ≤ n ∧ n < Int.pow 2 63 := by
  have := (Option.filter_eq_some_iff.1 h).2
  simpa [inRange] using this

/-- The number nearest to `digits * 10 ^ exponent` in a binary format. Far beyond the range of the
formats the power of ten is not computed. -/
def nearest {α : Type} [OfScientific α] (zero infinity : α) (d : Decimal) : α :=
  let power : Int := d.exponent + (Nat.toDigits 10 d.digits).length
  if d.digits = 0 ∨ power < -330 then zero
  else if 330 < power then infinity
  else if 0 ≤ d.exponent then OfScientific.ofScientific d.digits false d.exponent.toNat
  else OfScientific.ofScientific d.digits true (-d.exponent).toNat

/-- The binary64 number nearest to a decimal. -/
def toFloat : Decimal → Float := nearest 0 (1 / 0)

/-- The binary32 number nearest to a decimal. -/
def toFloat32 : Decimal → Float32 := nearest 0 (1 / 0)

/-- A decimal without a sign: digits, among them or before them or after them at most one point, and
an exponent of any size. -/
def readUnsigned? (text : List Char) : Option Decimal := do
  let significand := text.takeWhile fun c => c ≠ 'e' ∧ c ≠ 'E'
  let whole := significand.takeWhile (· ≠ '.')
  let fraction := (significand.dropWhile (· ≠ '.')).tail
  let digits ← readNat? (whole ++ fraction)
  let exponent ←
    match text.dropWhile fun c => c ≠ 'e' ∧ c ≠ 'E' with
    | [] => some 0
    | _ :: exponent => readSigned? exponent
  return ⟨digits, exponent - fraction.length⟩

/-- A number with an optional sign, a point and an exponent, or a special value by its name. The
decimal is rounded once. -/
def readFloat32? (text : List Char) : Option Float32 :=
  let (negative, text) := splitSign text
  let size :=
    match Text.asciiLower text with
    | "inf" | "infinity" => some (1 / 0)
    | "nan" => some (0 / 0)
    | _ => (readUnsigned? text).map toFloat32
  size.map fun x => if negative then -x else x

end BoxArrow.Decimal
