import BoxArrow.Proofs.Binary32.Arithmetic

/-!
# Signs in binary32

Multiplying by one or by minus one does not round, and adding the opposite of a number is
subtracting it. This holds for all numbers, the special ones included, because the bits of what is
not a number are always the same.

## Main definitions

* `IsRead` — the numbers that bits are read as

## Main results

* `one_mul`, `neg_one_mul` — multiplying by one and by minus one
* `add_neg` — adding the opposite
-/

namespace BoxArrow.Binary32

open Float.Model (Format UnpackedFloat)
open Float.Model.UnpackedFloat

/-- A number as it is read from bits: a special one, one with all its digits, or one with the
smallest exponent and fewer digits. -/
inductive IsRead : UnpackedFloat → Prop
  | notANumber : IsRead .notANumber
  | infinity (sign : Sign) : IsRead (.infinity sign)
  | zero (sign : Sign) : IsRead (.zero sign)
  | normal (sign : Sign) {m : Nat} {e : Int} (hpos : 0 < m) : 2 ^ 23 ≤ m → m < 2 ^ 24 →
      -149 ≤ e → e ≤ 104 → IsRead (.finite sign m e hpos)
  | subnormal (sign : Sign) {m : Nat} (hpos : 0 < m) : m < 2 ^ 23 →
      IsRead (.finite sign m (-149) hpos)

variable {u : UnpackedFloat}

/-! ### Reading bits -/

theorem isRead_unpack (b : BitVec Format.binary32.numBits) : IsRead (unpack .binary32 b) := by
  have hbias : ((Format.binary32.exponentBias : Nat) : Int) +
      (Format.binary32.mantissaBitsWithoutImplicit : Nat) = 150 := rfl
  have hmantissa : (unpackMantissa b).toNat < 2 ^ 23 := (unpackMantissa b).isLt
  have hexponent : (unpackExponent b).toNat < 256 := (unpackExponent b).isLt
  -- The exponent field tells the classes apart: 255 is not finite, and zero has no leading digit.
  unfold unpack
  dsimp only
  rw [hbias]
  split
  · split
    · exact .infinity _
    · exact .notANumber
  · rename_i hspecial
    split
    · rename_i hzero
      have hexponent : (unpackExponent b).toNat = 0 := congrArg BitVec.toNat hzero
      simp only [hexponent]
      split
      · exact .zero _
      · exact .subnormal _ _ hmantissa
    · rename_i hzero
      have happend : (1#1 ++ unpackMantissa b).toNat = 2 ^ 23 + (unpackMantissa b).toNat := by
        rw [BitVec.toNat_append, ← Nat.shiftLeft_add_eq_or_of_lt (unpackMantissa b).isLt]
        rfl
      have hne : (unpackExponent b).toNat ≠ 0 := fun h => hzero (BitVec.eq_of_toNat_eq h)
      have hne' : (unpackExponent b).toNat ≠ 255 := fun h => hspecial (BitVec.eq_of_toNat_eq h)
      exact .normal _ _ (by omega) (by omega) (by omega) (by omega)

/-- A number that was read is read again from its bits. -/
theorem unpack_pack (h : IsRead u) : unpack .binary32 (pack .binary32 u) = u := by
  cases h with
  | notANumber => exact unpack_packedNaN
  | infinity sign => cases sign <;> rfl
  | zero sign => exact unpack_packedZero
  | normal sign hpos hlow hhigh hmin hmax => exact unpack_pack_of_mem sign hpos hlow hhigh hmin hmax
  | @subnormal sign m hpos hm =>
    have hlog : m.log2 < 23 := (Nat.log2_lt hpos.ne').2 hm
    have hbiased : (-149 + Format.binary32.exponentBias +
        Format.binary32.mantissaBitsWithoutImplicit : Int).toNat = 1 := rfl
    -- A subnormal number has no leading digit to be left out, and zero in its exponent field.
    have hpack : pack .binary32 (.finite sign m (-149) hpos) =
        packComponents .binary32 sign 0#8 (BitVec.ofNat 23 m) := by
      unfold pack
      simp only [hbiased]
      rw [if_neg (by decide), if_neg]
      change ¬ m.log2 + 1 = 24
      omega
    have hmantissa : (BitVec.ofNat 23 m).toNat = m := by
      rw [BitVec.toNat_ofNat]
      omega
    have hne : BitVec.ofNat 23 m ≠ 0#23 := fun h => by
      have hzero := congrArg BitVec.toNat h
      rw [hmantissa] at hzero
      exact hpos.ne' hzero
    rw [hpack, unpack]
    simp only [unpackMantissa_packComponents, unpackExponent_packComponents,
      unpackSign_packComponents, Sign.ofBitVec_toBitVec]
    rw [if_neg (by decide), if_pos trivial, dif_neg hne]
    simp only [hmantissa]
    rfl

theorem IsRead.neg (h : IsRead u) : IsRead u.neg := by
  cases h with
  | notANumber => exact .notANumber
  | infinity sign => exact .infinity _
  | zero sign => exact .zero _
  | normal sign hpos hlow hhigh hmin hmax => exact .normal _ hpos hlow hhigh hmin hmax
  | subnormal sign hpos hm => exact .subnormal _ hpos hm

/-! ### Multiplying by a sign -/

/-- One, with a sign. -/
def signedOne (sign : Sign) : UnpackedFloat := .finite sign (2 ^ 23) (-23) (by decide)

theorem target_of_lt {m : Nat} (hm : m < 2 ^ 23) : target .binary32 m (-149) = -149 := by
  have hlog : m.log2 ≤ 23 := by
    by_cases hzero : m = 0
    · simp [hzero]
    · exact ((Nat.log2_lt hzero).2 hm).le
  change max (((m.log2 : Nat) : Int) + 1 + -149 - 24) (-149) = -149
  omega

theorem mul_signedOne {m : Nat} {e : Int} (sign sign' : Sign) (hm : 0 < m)
    (h : target .binary32 m e = e) :
    mul .binary32 (signedOne sign) (.finite sign' m e hm) = .finite (sign * sign') m e hm := by
  have hmantissa : 2 ^ 23 * m = m <<< 23 := by rw [Nat.shiftLeft_eq, Nat.mul_comm]
  have hexponent : -23 + e = e - (23 : Nat) := by omega
  rw [signedOne, mul, hmantissa, hexponent,
    roundWithAccuracy_shiftLeft _ hm.ne' 23 (by omega)]
  exact round_of_target_eq _ hm h

theorem positive_mul (sign : Sign) : Sign.positive * sign = sign := by cases sign <;> rfl

theorem negative_mul (sign : Sign) : Sign.negative * sign = -sign := by cases sign <;> rfl

theorem mul_signedOne_positive (h : IsRead u) : mul .binary32 (signedOne .positive) u = u := by
  cases h with
  | notANumber => rfl
  | infinity sign | zero sign => cases sign <;> rfl
  | normal sign hpos hlow hhigh hmin _ =>
    rw [mul_signedOne _ _ _ (target_of_mem hlow hhigh hmin), positive_mul]
  | subnormal sign hpos hm => rw [mul_signedOne _ _ _ (target_of_lt hm), positive_mul]

theorem mul_signedOne_negative (h : IsRead u) :
    mul .binary32 (signedOne .negative) u = u.neg := by
  cases h with
  | notANumber => rfl
  | infinity sign | zero sign => cases sign <;> rfl
  | normal sign hpos hlow hhigh hmin _ =>
    rw [mul_signedOne _ _ _ (target_of_mem hlow hhigh hmin), negative_mul]
    rfl
  | subnormal sign hpos hm =>
    rw [mul_signedOne _ _ _ (target_of_lt hm), negative_mul]
    rfl

/-! ### Opposites -/

theorem apply_neg (sign : Sign) (n : Int) : (-sign).apply n = -sign.apply n := by
  cases sign with
  | negative => exact (Int.neg_neg n).symm
  | positive => rfl

/-- Subtracting is adding the opposite. -/
theorem add_neg_eq_sub (spec : Format) (u v : UnpackedFloat) : add spec u v.neg = sub spec u v := by
  cases u <;> cases v <;> try rfl
  rename_i sign m e hm sign' m' e' hm'
  rw [neg, add, sub]
  dsimp only
  rw [apply_neg, Int.sub_eq_add_neg]

/-! ### Numbers -/

theorem ofModel_pack_unpack (x : Float32) :
    Float32.ofModel (Float32.Model.pack x.toModel.unpack) = x := by
  rw [← Float32.toBits_inj, ← UInt32.toBitVec_inj]
  exact pack_unpack_of_valid x.toModel.valid

theorem one_mul (x : Float32) : 1 * x = x := by
  have hread : IsRead x.toModel.unpack := isRead_unpack _
  have hbits : (1 : Float32) = .ofBits 0x3F800000 := by decide +kernel
  have hone : (1 : Float32).toModel.unpack = signedOne .positive := by
    rw [hbits]
    rfl
  change Float32.ofModel (Float32.Model.pack (mul .binary32 (1 : Float32).toModel.unpack
    x.toModel.unpack)) = x
  rw [hone, mul_signedOne_positive hread, ofModel_pack_unpack]

theorem neg_one_mul (x : Float32) : -1 * x = -x := by
  have hread : IsRead x.toModel.unpack := isRead_unpack _
  have hbits : (-1 : Float32) = .ofBits 0xBF800000 := by decide +kernel
  have hone : (-1 : Float32).toModel.unpack = signedOne .negative := by
    rw [hbits]
    rfl
  change Float32.ofModel (Float32.Model.pack (mul .binary32 (-1 : Float32).toModel.unpack
    x.toModel.unpack)) = _
  rw [hone, mul_signedOne_negative hread]
  rfl

theorem add_neg (x y : Float32) : x + -y = x - y := by
  have hread : IsRead y.toModel.unpack := isRead_unpack _
  have hneg : (-y).toModel.unpack = y.toModel.unpack.neg := unpack_pack hread.neg
  change Float32.ofModel (Float32.Model.pack (add .binary32 x.toModel.unpack
    (-y).toModel.unpack)) = _
  rw [hneg, add_neg_eq_sub]
  rfl

end BoxArrow.Binary32
