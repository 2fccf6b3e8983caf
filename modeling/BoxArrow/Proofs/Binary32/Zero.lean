import BoxArrow.Proofs.Binary32.Signs

/-!
# Zero in binary32

A number is at most zero, or above zero, or no number. The last ones are easily forgotten, since no
comparison with them holds: what is not at most zero need not be above zero. Adding zero to a number
that is not at most zero changes nothing, and neither does subtracting zero from any number.

## Main results

* `not_le_zero_iff` — what is not at most zero
* `zero_add`, `sub_zero` — adding and subtracting zero
-/

namespace BoxArrow.Binary32

open Float.Model (UnpackedFloat)
open Float.Model.UnpackedFloat

theorem unpack_zero : (0 : Float32).toModel.unpack = .zero .positive := by
  have hbits : (0 : Float32) = .ofBits 0 := by decide +kernel
  rw [hbits]
  rfl

theorem le_iff (x y : Float32) :
    x ≤ y ↔ UnpackedFloat.le x.toModel.unpack y.toModel.unpack = true :=
  decide_eq_true_iff

/-- What is not at most zero is above zero or no number. -/
theorem not_le_zero_iff (x : Float32) : ¬ x ≤ 0 ↔ 0 < x ∨ x.isNaN = true := by
  have hnan : x.isNaN = x.toModel.unpack.isNaN := rfl
  rw [le_iff, lt_iff, unpack_zero, hnan]
  cases x.toModel.unpack with
  | notANumber => decide
  | infinity sign => cases sign <;> decide
  | zero sign => cases sign <;> decide
  | finite sign m e hm =>
    -- Neither side depends on the digits.
    cases sign with
    | negative =>
      change ¬ true = true ↔ false = true ∨ false = true
      decide
    | positive =>
      change ¬ false = true ↔ true = true ∨ false = true
      decide

theorem not_lt_of_isNaN {x : Float32} (h : x.isNaN = true) : ¬ 0 < x := by
  have hnan : x.toModel.unpack.isNaN = true := h
  rw [lt_iff, unpack_zero]
  cases hx : x.toModel.unpack with
  | notANumber => decide
  | infinity sign | zero sign | finite sign m e hm =>
    rw [hx] at hnan
    cases hnan

/-- Adding a number to zero gives the number, unless it is the zero below zero. -/
theorem zero_add {x : Float32} (h : ¬ x ≤ 0) : 0 + x = x := by
  rw [le_iff, unpack_zero] at h
  have hadd : add .binary32 (.zero .positive) x.toModel.unpack = x.toModel.unpack := by
    cases hx : x.toModel.unpack with
    | notANumber | infinity sign | finite sign m e hm => rfl
    | zero sign =>
      rw [hx] at h
      exact absurd rfl h
  change Float32.ofModel (Float32.Model.pack (add .binary32 (0 : Float32).toModel.unpack
    x.toModel.unpack)) = x
  rw [unpack_zero, hadd, ofModel_pack_unpack]

theorem sub_zero (x : Float32) : x - 0 = x := by
  have hsub : sub .binary32 x.toModel.unpack (.zero .positive) = x.toModel.unpack := by
    cases x.toModel.unpack with
    | notANumber | infinity sign | finite sign m e hm => rfl
    | zero sign => cases sign <;> rfl
  change Float32.ofModel (Float32.Model.pack (sub .binary32 x.toModel.unpack
    (0 : Float32).toModel.unpack)) = x
  rw [unpack_zero, hsub, ofModel_pack_unpack]

end BoxArrow.Binary32
