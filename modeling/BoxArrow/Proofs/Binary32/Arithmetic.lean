import BoxArrow.Proofs.Binary32.Integers
import Mathlib

/-!
# Arithmetic on integers in binary32

Numbers are kept as bits, and read from them before every operation. An integer that is not rounded
is read back as it was written, so that sums and differences of such integers are those of the
integers, rounded once.

## Main definitions

* `rounded` — the integer that an integer is rounded to

## Main results

* `ofInt_add`, `ofInt_sub` — sums and differences of integers are rounded once
* `ofModel_ofInt` — what they are rounded to
* `ofInt_inj` — integers that are not rounded are different numbers
* `nonneg_of_not_lt` — a number that is not below zero stands for no negative integer
-/

namespace BoxArrow.Binary32

open Float.Model (Format UnpackedFloat)
open Float.Model.UnpackedFloat

/-! ### Bits -/

/-- A number with all its digits is read back from its bits. -/
theorem unpack_pack_of_mem {q : Nat} {e : Int} (sign : Sign) (hpos : 0 < q) (hlow : 2 ^ 23 ≤ q)
    (hhigh : q < 2 ^ 24) (hmin : -149 ≤ e) (hmax : e ≤ 104) :
    unpack .binary32 (pack .binary32 (.finite sign q e hpos)) = .finite sign q e hpos := by
  have hlog : q.log2 = 23 := (Nat.log2_eq_iff (by omega)).2 ⟨hlow, hhigh⟩
  have hbiased : (e + Format.binary32.exponentBias +
      Format.binary32.mantissaBitsWithoutImplicit).toNat = (e + 150).toNat := by
    change (e + (127 : Nat) + (23 : Nat)).toNat = _
    omega
  have hexponent : (BitVec.ofNat 8 (e + 150).toNat).toNat = (e + 150).toNat := by
    rw [BitVec.toNat_ofNat]
    omega
  -- Neither the exponent of the special numbers nor that of the smallest ones is taken.
  have hnormal (b : BitVec 8) (hb : b.toNat ≠ (e + 150).toNat) :
      BitVec.ofNat 8 (e + 150).toNat ≠ b := fun h => hb (h ▸ hexponent)
  have hmantissa : (1#1 ++ BitVec.ofNat 23 q).toNat = q := by
    rw [BitVec.toNat_append, ← Nat.shiftLeft_add_eq_or_of_lt (BitVec.ofNat 23 q).isLt,
      BitVec.toNat_ofNat, Nat.shiftLeft_eq]
    change 1 * 2 ^ 23 + q % 2 ^ 23 = q
    omega
  have hpack : pack .binary32 (.finite sign q e hpos) =
      packComponents .binary32 sign (BitVec.ofNat 8 (e + 150).toNat) (BitVec.ofNat 23 q) := by
    unfold pack
    simp only [hbiased, hlog]
    rw [if_neg (by omega), if_pos (by rfl)]
  rw [hpack, unpack]
  simp only [unpackMantissa_packComponents, unpackExponent_packComponents,
    unpackSign_packComponents, Sign.ofBitVec_toBitVec]
  rw [if_neg (hnormal _ (by simp; omega)), if_neg (hnormal _ (by simp; omega))]
  simp only [hmantissa, hexponent]
  congr 1
  change ((e + 150).toNat : Int) - ((127 : Nat) + (23 : Nat)) = e
  omega

/-- An integer that is not rounded is read back from its bits. -/
theorem unpack_pack_ofInt {n : Int} (h : IsExact n) :
    (Float32.Model.ofInt n).unpack = ofInt .binary32 n := by
  change unpack .binary32 (pack .binary32 (ofInt .binary32 n)) = _
  by_cases hn : n = 0
  · rw [hn]
    rfl
  · obtain ⟨digits⟩ := h.nonempty_digits hn
    have := digits.exponent_ge
    have := digits.exponent_le
    rw [digits.ofInt_eq hn]
    exact unpack_pack_of_mem _ _ digits.low digits.high (by omega) (by omega)

/-! ### Integers -/

/-- Multiplying by one gives the same number. -/
theorem mul_one_ofInt {n : Int} (h : IsExact n) (hn : 0 < n) :
    mul .binary32 (ofInt .binary32 n) (.finite .positive (2 ^ 23) (-23) (by decide)) =
      ofInt .binary32 n := by
  obtain ⟨digits⟩ := h.nonempty_digits (by omega)
  have hge := digits.exponent_ge
  have htarget : target .binary32 digits.mantissa digits.exponent = digits.exponent :=
    target_of_mem digits.low digits.high (by omega)
  rw [digits.ofInt_eq (by omega), signOf, if_neg (by omega), mul]
  have hmantissa : digits.mantissa * 2 ^ 23 = digits.mantissa <<< 23 :=
    (Nat.shiftLeft_eq ..).symm
  rw [hmantissa]
  exact (roundWithAccuracy_shiftLeft .positive digits.mantissa_pos.ne' 23 (by omega)).trans
    (round_of_mem .positive digits.low digits.high (by omega))

/-- An integer of which a few digits more are given is rounded. -/
theorem ofScientific_zero (n : Nat) :
    UnpackedFloat.ofScientific .binary32 n 0 = ofInt .binary32 n := by
  unfold UnpackedFloat.ofScientific
  split
  · rename_i hn
    rw [hn]
    rfl
  · rename_i hn
    have hsign : signOf n = .positive := if_neg (by omega)
    have hle : (0 : Int) - (24 : Nat) ≤ target .binary32 n 0 := by
      change _ ≤ max (((n.log2 : Nat) : Int) + 1 + 0 - 24) (-149)
      omega
    have hbound : (2 : Int) ^ Format.binary32.exponentBits = 256 := rfl
    rw [if_neg (by decide), if_neg (by omega), if_pos (by decide), UnpackedFloat.ofInt,
      normalize_of_ne_zero (by omega), hsign, Int.natAbs_natCast,
      ← roundWithAccuracy_shiftLeft .positive hn 24 hle, mul]
    have hpow : n <<< Format.binary32.mantissaBits * 10 ^ (0 : Int).toNat = n <<< 24 :=
      Nat.mul_one _
    rw [hpow]
    rfl

/-- A natural number is rounded to the nearest binary32 number. -/
theorem ofNat_eq (n : Nat) : Float32.ofNat n = .ofModel (.ofInt n) := by
  by_cases hn : n = 0
  · rw [hn]
    decide +kernel
  change Float32.ofScientific n false 0 = _
  unfold Float32.ofScientific
  split
  · have hexact : IsExact n := .inl (by omega)
    have hbits : n.toUInt64.toNat = n := by
      rw [UInt64.toNat_ofNat']
      omega
    have hone : (Float32.ofBits 0x3F800000).toModel.unpack =
        .finite .positive (2 ^ 23) (-23) (by decide) := rfl
    change Float32.ofModel (Float32.Model.pack (mul .binary32
      (Float32.Model.ofInt (n.toUInt64.toNat : Int)).unpack
      (Float32.ofBits 0x3F800000).toModel.unpack)) = _
    rw [hbits, unpack_pack_ofInt hexact, hone, mul_one_ofInt hexact (by omega)]
    rfl
  · exact congrArg (fun u => Float32.ofModel (Float32.Model.pack u)) (ofScientific_zero n)

/-- An integer that is not too large is rounded to the nearest binary32 number. -/
theorem ofInt_eq {n : Int} (h : IsExact n) : Float32.ofInt n = .ofModel (.ofInt n) := by
  cases n with
  | ofNat n => exact ofNat_eq n
  | negSucc n =>
    have hexact : IsExact (n + 1 : Nat) := by
      rcases h with h | ⟨h, hdvd⟩
      · exact .inl (by omega)
      · exact .inr ⟨by omega, by omega⟩
    change (Float32.ofNat (n + 1)).neg = _
    rw [ofNat_eq]
    change Float32.ofModel (Float32.Model.pack (Float32.Model.ofInt (n + 1 : Nat)).unpack.neg) = _
    rw [unpack_pack_ofInt hexact, ← ofInt_neg (by omega)]
    rfl

variable {a b : Int}

/-- The sum of two integers is rounded once. -/
theorem ofInt_add (ha : IsExact a) (hb : IsExact b) :
    Float32.ofInt a + Float32.ofInt b = .ofModel (.ofInt (a + b)) := by
  rw [ofInt_eq ha, ofInt_eq hb]
  change Float32.ofModel (Float32.Model.pack (add .binary32 (Float32.Model.ofInt a).unpack
    (Float32.Model.ofInt b).unpack)) = _
  rw [unpack_pack_ofInt ha, unpack_pack_ofInt hb, add_ofInt ha hb]
  rfl

/-- The difference of two integers is rounded once. -/
theorem ofInt_sub (ha : IsExact a) (hb : IsExact b) :
    Float32.ofInt a - Float32.ofInt b = .ofModel (.ofInt (a - b)) := by
  rw [ofInt_eq ha, ofInt_eq hb]
  change Float32.ofModel (Float32.Model.pack (sub .binary32 (Float32.Model.ofInt a).unpack
    (Float32.Model.ofInt b).unpack)) = _
  rw [unpack_pack_ofInt ha, unpack_pack_ofInt hb, sub_ofInt ha hb]
  rfl

/-- An integer up to twice the limit, as the integer that it is rounded to. -/
def rounded (n : Int) : Int :=
  if n ≤ 2 ^ 24 ∨ n % 2 = 0 then n else if n % 4 = 1 then n - 1 else n + 1

theorem isExact_rounded {n : Int} (hlow : -2 ^ 24 ≤ n) (hhigh : n ≤ 2 ^ 25) :
    IsExact (rounded n) := by
  unfold rounded IsExact
  split
  · omega
  · split <;> omega

theorem ofModel_ofInt {n : Int} (hlow : -2 ^ 24 ≤ n) (hhigh : n ≤ 2 ^ 25) :
    Float32.ofModel (.ofInt n) = Float32.ofInt (rounded n) := by
  rw [ofInt_eq (isExact_rounded hlow hhigh)]
  unfold rounded
  split
  · rfl
  · exact congrArg (fun u => Float32.ofModel (Float32.Model.pack u))
      (ofInt_of_odd (by omega) (by omega) (by omega))

/-- Integers that are not rounded are different numbers. -/
theorem ofInt_inj (ha : IsExact a) (hb : IsExact b) :
    Float32.ofInt a = Float32.ofInt b ↔ a = b := by
  refine ⟨fun h => eq_of_ofInt_eq ha hb ?_, fun h => h ▸ rfl⟩
  rw [ofInt_eq ha, ofInt_eq hb] at h
  have hmodel : Float32.Model.ofInt a = Float32.Model.ofInt b := congrArg Float32.toModel h
  rw [← unpack_pack_ofInt ha, hmodel, unpack_pack_ofInt hb]

theorem lt_iff (x y : Float32) :
    x < y ↔ UnpackedFloat.lt x.toModel.unpack y.toModel.unpack = true :=
  decide_eq_true_iff

/-- A number that is not below zero stands for no negative integer. -/
theorem nonneg_of_not_lt {n : Int} (h : IsExact n) (hlt : ¬ Float32.ofInt n < 0) : 0 ≤ n := by
  by_contra hneg
  have hzero : (0 : Float32) = Float32.ofInt 0 := rfl
  obtain ⟨digits⟩ := h.nonempty_digits (by omega)
  refine hlt ?_
  rw [lt_iff, hzero, ofInt_eq h, ofInt_eq (.inl (by decide))]
  change UnpackedFloat.lt (Float32.Model.ofInt n).unpack (Float32.Model.ofInt 0).unpack = true
  rw [unpack_pack_ofInt h, unpack_pack_ofInt (.inl (by decide)), digits.ofInt_eq (by omega), signOf,
    if_pos (by omega)]
  rfl

end BoxArrow.Binary32
