import Mathlib.Algebra.Order.Ring.Int
import Mathlib.Data.Nat.Log

/-!
# Rounding of scaled integers

A finite number is rounded by its value, and not by the mantissa and exponent that happen to stand
for it: scaling the mantissa up and the exponent down changes nothing.

## Main results

* `round_shiftLeft` — a number is rounded in the same way at every scale
* `normalize_mul_two_pow` — the same for numbers with a sign
-/

namespace BoxArrow.Binary32

open Float.Model Float.Model.UnpackedFloat

variable {spec : Format} {m : Nat} {e : Int}

theorem shiftLeft_succ_eq (m k : Nat) : m <<< (k + 1) = 2 * (m <<< k) := by
  rw [Nat.shiftLeft_eq, Nat.shiftLeft_eq, Nat.pow_succ, ← Nat.mul_assoc, Nat.mul_comm]

theorem shiftLeft_ne_zero (hm : m ≠ 0) (k : Nat) : m <<< k ≠ 0 := by
  rw [Nat.shiftLeft_eq]
  exact Nat.mul_ne_zero hm (Nat.two_pow_pos k).ne'

theorem log2_shiftLeft (hm : m ≠ 0) (k : Nat) : (m <<< k).log2 = m.log2 + k := by
  induction k with
  | zero => rfl
  | succ k ih =>
    rw [shiftLeft_succ_eq, Nat.log2_two_mul (shiftLeft_ne_zero hm k), ih, Nat.add_assoc]

/-- The position of the first digit does not depend on the scale. -/
theorem totalExponent_shiftLeft (hm : m ≠ 0) (k : Nat) :
    totalExponent (m <<< k) (e - k) = totalExponent m e := by
  unfold totalExponent
  rw [log2_shiftLeft hm]
  push_cast
  omega

theorem repeat_add {α : Type} (f : α → α) (a b : Nat) (x : α) :
    (a + b).repeat f x = a.repeat f (b.repeat f x) := by
  induction a with
  | zero => rw [Nat.zero_add]; rfl
  | succ a ih => rw [Nat.succ_add, Nat.repeat, ih, Nat.repeat]

/-- Shifting out the zeros that were shifted in gives the mantissa back. -/
theorem repeat_shiftRightOne_shiftLeft (m k : Nat) :
    k.repeat ExtendedMantissa.shiftRightOne ⟨m <<< k, false, false⟩ = ⟨m, false, false⟩ := by
  induction k with
  | zero => rfl
  | succ k ih =>
    have hone : ExtendedMantissa.shiftRightOne ⟨m <<< (k + 1), false, false⟩ =
        ⟨m <<< k, false, false⟩ := by
      rw [shiftLeft_succ_eq, ExtendedMantissa.shiftRightOne]
      simp
    rw [repeat_add _ k 1, Nat.repeat, Nat.repeat, hone, ih]

/-- The exponent that a number is rounded to. -/
def target (spec : Format) (m : Nat) (e : Int) : Int := spec.targetExponent (totalExponent m e)

theorem shiftToTargetExponent_shiftLeft (hm : m ≠ 0) (he : e ≤ target spec m e) (k : Nat) :
    shiftToTargetExponent spec (m <<< k) (e - k) .exact =
      shiftToTargetExponent spec m e .exact := by
  unfold shiftToTargetExponent
  rw [totalExponent_shiftLeft hm]
  change shiftToExponent _ _ _ (target spec m e) = shiftToExponent _ _ _ (target spec m e)
  generalize target spec m e = t at *
  have hamount : (t - (e - k)).toNat = (t - e).toNat + k := by omega
  unfold shiftToExponent
  dsimp only
  rw [hamount]
  refine Prod.ext ?_ (by dsimp only; push_cast; omega)
  change ((t - e).toNat + k).repeat ExtendedMantissa.shiftRightOne ⟨m <<< k, false, false⟩ =
    (t - e).toNat.repeat ExtendedMantissa.shiftRightOne ⟨m, false, false⟩
  rw [repeat_add, repeat_shiftRightOne_shiftLeft]

theorem target_shiftLeft (hm : m ≠ 0) (k : Nat) :
    target spec (m <<< k) (e - k) = target spec m e :=
  congrArg _ (totalExponent_shiftLeft hm k)

theorem round_eq (sign : Sign) :
    round spec sign m e = roundWithAccuracy spec sign (m <<< (e - target spec m e).toNat)
      (e - (e - target spec m e).toNat) .exact := rfl

theorem roundWithAccuracy_shiftLeft_of_le (sign : Sign) (hm : m ≠ 0) (he : e ≤ target spec m e)
    (k : Nat) :
    roundWithAccuracy spec sign (m <<< k) (e - k) .exact =
      roundWithAccuracy spec sign m e .exact := by
  unfold roundWithAccuracy
  rw [shiftToTargetExponent_shiftLeft hm he]

/-- A number whose mantissa has enough digits is rounded as it is. -/
theorem roundWithAccuracy_shiftLeft (sign : Sign) (hm : m ≠ 0) (k : Nat)
    (he : e - k ≤ target spec m e) :
    roundWithAccuracy spec sign (m <<< k) (e - k) .exact = round spec sign m e := by
  -- Rounding scales the mantissa up by `j` digits, and there are `k - j` more of them.
  obtain ⟨i, hi⟩ : ∃ i, k = (e - target spec m e).toNat + i :=
    Nat.exists_eq_add_of_le (by omega)
  have htarget : target spec (m <<< (e - target spec m e).toNat) (e - (e - target spec m e).toNat) =
      target spec m e := target_shiftLeft hm _
  have hle : e - (e - target spec m e).toNat ≤ target spec m e := by omega
  rw [round_eq]
  generalize (e - target spec m e).toNat = j at *
  have hscale : m <<< k = (m <<< j) <<< i := by rw [hi, Nat.shiftLeft_add]
  have hexponent : e - k = e - j - i := by omega
  rw [hscale, hexponent]
  exact roundWithAccuracy_shiftLeft_of_le sign (shiftLeft_ne_zero hm j) (by omega) i

/-- A number is rounded in the same way at every scale. -/
theorem round_shiftLeft (sign : Sign) (hm : m ≠ 0) (k : Nat) :
    round spec sign (m <<< k) (e - k) = round spec sign m e := by
  -- Both numbers are rounded as they are at a scale that is large enough.
  let i := (e - target spec m e).toNat
  have hle : e - k - i ≤ target spec (m <<< k) (e - k) := by
    rw [target_shiftLeft hm]
    omega
  have hboth : e - k - i = e - (k + i : Nat) := by omega
  rw [← roundWithAccuracy_shiftLeft sign (shiftLeft_ne_zero hm k) i hle,
    ← Nat.shiftLeft_add, hboth]
  exact roundWithAccuracy_shiftLeft sign hm (k + i) (by omega)

/-- The sign of an integer. -/
def signOf (n : Int) : Sign := if n < 0 then .negative else .positive

/-- An integer with an exponent is rounded as its absolute value, with its sign. -/
theorem normalize_of_ne_zero {n : Int} (hn : n ≠ 0) (e : Int) (sign : Sign) :
    UnpackedFloat.normalize spec n e sign = round spec (signOf n) n.natAbs e := by
  unfold UnpackedFloat.normalize signOf
  rcases Int.lt_or_gt_of_ne hn with hn | hn
  · have hcompare : compare n 0 = .lt := compare_lt_iff_lt.2 hn
    have habs : (-n).toNat = n.natAbs := by omega
    rw [hcompare, if_pos hn, ← habs]
  · have hcompare : compare n 0 = .gt := compare_gt_iff_gt.2 hn
    have habs : n.toNat = n.natAbs := by omega
    rw [hcompare, if_neg (by omega), ← habs]

/-- A number with a sign is rounded in the same way at every scale. -/
theorem normalize_mul_two_pow (n e : Int) (k : Nat) (sign : Sign) :
    UnpackedFloat.normalize spec (n * 2 ^ k) (e - k) sign =
      UnpackedFloat.normalize spec n e sign := by
  by_cases hn : n = 0
  · rw [hn, Int.zero_mul]
    rfl
  · have hpow : (0 : Int) < 2 ^ k := Int.pow_pos (by decide)
    have hneg : n * 2 ^ k < 0 ↔ n < 0 := by
      rw [← not_iff_not, Int.not_lt, Int.not_lt]
      exact ⟨fun h => Int.nonneg_of_mul_nonneg_left h hpow, fun h => Int.mul_nonneg h hpow.le⟩
    have hsign : signOf (n * 2 ^ k) = signOf n := by
      unfold signOf
      rw [if_congr hneg rfl rfl]
    have habs : (n * 2 ^ k).natAbs = n.natAbs <<< k := by
      rw [Int.natAbs_mul, Int.natAbs_pow, Nat.shiftLeft_eq]
      rfl
    rw [normalize_of_ne_zero (Int.mul_ne_zero hn hpow.ne'), normalize_of_ne_zero hn, hsign, habs,
      round_shiftLeft _ (Int.natAbs_ne_zero.2 hn)]

end BoxArrow.Binary32
