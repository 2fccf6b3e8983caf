/-!
# Shortest decimals

The shortest decimal of a binary32 number is the one with the fewest digits among those that read
back as the number, and of these the nearest. The numbers that read back lie in an interval around
the value, which reaches halfway to each neighbour and includes its ends if the mantissa is even.
Where two decimals are equally near, a rule chooses between them. The value of a binary32 number is
read from its bits.

## Main definitions

* `Binary` — not a number, an infinity, or a sign with a multiple of a power of two
* `Binary.ofFloat32` — the value of a binary32 number, read from its bits
* `Decimal` — a multiple of a power of ten
* `Decimal.TieRule` — the choice between two decimals that are equally near
* `Decimal.shortest` — the shortest decimal of a positive binary32 number
-/

namespace BoxArrow

/-! ### Binary numbers -/

/-- The value of a binary floating point number. -/
inductive Binary
  | nan
  | infinite (negative : Bool)
  /-- The number `± mantissa * 2 ^ exponent`. -/
  | finite (negative : Bool) (mantissa : Nat) (exponent : Int)
  deriving DecidableEq, Repr

namespace Binary

/-- The value of a binary32 number. The exponent field `0` is that of the smallest normal numbers
without their leading bit, and the largest one is kept for infinities and for what is no number. -/
def ofFloat32 (x : Float32) : Binary :=
  let bits := x.toBits.toNat
  let negative : Bool := Nat.pow 2 31 ≤ bits
  let field : Nat := bits / Nat.pow 2 23 % Nat.pow 2 8
  let fraction : Nat := bits % Nat.pow 2 23
  if field = 255 then if fraction = 0 then infinite negative else nan
  else if field = 0 then finite negative fraction (-149)
  else finite negative (Nat.pow 2 23 + fraction) ((field : Int) - 150)

end Binary

/-! ### Decimals -/

/-- The number `digits * 10 ^ exponent`. -/
structure Decimal where
  digits : Nat
  exponent : Int
  deriving DecidableEq, Repr, Inhabited

namespace Decimal

/-- The choice between two decimals of one grid that are equally near. -/
inductive TieRule
  /-- The one whose last digit is even. -/
  | toEven
  /-- The greater one. -/
  | up
  deriving DecidableEq, Repr, Inhabited

/-- Whether the lower of two decimals is chosen, by its digits. -/
def TieRule.takesLow (tie : TieRule) (low : Nat) : Bool :=
  match tie with
  | toEven => low % 2 = 0
  | up => false

/-- The numerators of a decimal `digits * 10 ^ exponent` and of a binary number
`quarters * 2 ^ (power - 2)` over a common denominator. -/
def overCommon (digits : Nat) (exponent : Int) (quarters : Nat) (power : Int) : Nat × Nat :=
  (digits * Nat.pow 10 exponent.toNat * Nat.pow 2 (2 - power).toNat,
    quarters * Nat.pow 2 (power - 2).toNat * Nat.pow 10 (-exponent).toNat)

/-- Whether a decimal reads back as the binary32 number `mantissa * 2 ^ power`. The interval is
measured in quarters of the last place. It is narrower below a power of two, where the neighbours
are closer, except at the bottom of the range. -/
def readsBack (mantissa : Nat) (power : Int) (d : Decimal) : Bool :=
  let below := if mantissa = Nat.pow 2 23 ∧ -149 < power then 1 else 2
  let (value, least) := overCommon d.digits d.exponent (4 * mantissa - below) power
  let (_, greatest) := overCommon d.digits d.exponent (4 * mantissa + 2) power
  if mantissa % 2 = 0 then least ≤ value && value ≤ greatest
  else least < value && value < greatest

/-- The multiple of `10 ^ exponent` nearest to `mantissa * 2 ^ power` among those that read back.
Only the two neighbours of the value on the grid can be it. -/
def onGrid? (tie : TieRule) (mantissa : Nat) (power exponent : Int) : Option Decimal :=
  let (unit, value) := overCommon 1 exponent (4 * mantissa) power
  let low := value / unit
  let rest := value % unit
  let takeLow := readsBack mantissa power ⟨low, exponent⟩
  let takeHigh := readsBack mantissa power ⟨low + 1, exponent⟩
  match takeLow, takeHigh with
  | true, true =>
    if 2 * rest < unit || (2 * rest = unit && tie.takesLow low) then some ⟨low, exponent⟩
    else some ⟨low + 1, exponent⟩
  | true, false => some ⟨low, exponent⟩
  | false, true => some ⟨low + 1, exponent⟩
  | false, false => none

/-- An exponent `e` with `mantissa * 2 ^ power < 10 ^ e`, at most one too large. The logarithm of
two is below 30103 / 100000. -/
def magnitude (mantissa : Nat) (power : Int) : Int :=
  (mantissa.log2 + power + 1) * 30103 / 100000 + 1

/-- The shortest decimal of `mantissa * 2 ^ power`: the first hit on ever finer grids. Nine digits
always suffice. -/
def shortest (tie : TieRule) (mantissa : Nat) (power : Int) : Decimal :=
  ((List.range 12).findSome? fun (step : Nat) =>
    onGrid? tie mantissa power (magnitude mantissa power - step)).getD ⟨0, 0⟩

end Decimal

end BoxArrow
