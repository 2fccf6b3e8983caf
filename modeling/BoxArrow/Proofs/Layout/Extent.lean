import BoxArrow.Item.Schema
import BoxArrow.Plane
import BoxArrow.Proofs.Binary32.Arithmetic

/-!
# Extents of boxes

A box keeps the coordinates of its edges. The last edge is the sum of the first one and of the
extent, and beyond `canvasLimit` an odd sum is no binary32 number. The extent is computed from the
edges whenever it is asked for and whenever the box is moved, so it is what is left of the one that
was set.

## Main definitions

* `OnCanvas`, `IsExtent` — the integers that a block may give for a position and for an extent
* `keptExtent` — what is left of an extent
* `Box.Spans` — a box with a given integer position and extent along an axis

## Main results

* `keptExtent_eq_self_iff` — which extents are left as they were set
* `Box.Spans.extent_eq` — the extent of a box, computed from its edges
-/

namespace BoxArrow

open Binary32

theorem canvasLimit_eq : canvasLimit = 2 ^ 24 := rfl

/-! ### Integers -/

/-- An integer that a block may give for a position. -/
def OnCanvas (x : Int) : Prop := -canvasLimit ≤ x ∧ x ≤ canvasLimit

/-- An integer that a block may give for an extent. -/
def IsExtent (n : Int) : Prop := 0 ≤ n ∧ n ≤ canvasLimit

instance (x : Int) : Decidable (OnCanvas x) := inferInstanceAs (Decidable (_ ∧ _))

instance (n : Int) : Decidable (IsExtent n) := inferInstanceAs (Decidable (_ ∧ _))

/-- What is left of the extent `n` at the position `x` when the last edge is rounded. -/
def keptExtent (x n : Int) : Int := rounded (rounded (x + n) - x)

variable {x n : Int}

theorem OnCanvas.isExact (hx : OnCanvas x) : IsExact x := by
  unfold OnCanvas at hx
  rw [canvasLimit_eq] at hx
  exact .inl (by omega)

theorem IsExtent.isExact (hn : IsExtent n) : IsExact n := by
  unfold IsExtent at hn
  rw [canvasLimit_eq] at hn
  exact .inl (by omega)

/-- An extent is left as it was set if the last edge is not rounded, or if it is rounded to an
edge too far and the extent is the greatest one. -/
theorem keptExtent_eq_self_iff (hn : IsExtent n) :
    keptExtent x n = n ↔
      x + n ≤ canvasLimit ∨ 2 ∣ x + n ∨ n = canvasLimit ∧ (x + n) % 4 = 3 := by
  unfold IsExtent at hn
  rw [canvasLimit_eq] at *
  unfold keptExtent rounded
  grind

/-- What is left of an extent leads to the same last edge. -/
theorem rounded_add_keptExtent (hn : IsExtent n) :
    rounded (x + keptExtent x n) = rounded (x + n) := by
  -- An edge that is rounded becomes an even one, and stays there.
  have heven : keptExtent x n = n ∨
      rounded (x + n) % 2 = 0 ∧ keptExtent x n = rounded (x + n) - x := by
    unfold IsExtent at hn
    rw [canvasLimit_eq] at hn
    unfold keptExtent rounded
    grind
  rcases heven with heq | ⟨heven, hsub⟩
  · rw [heq]
  · have hadd : x + keptExtent x n = rounded (x + n) := by omega
    rw [hadd]
    exact if_pos (.inr heven)

/-- The distance between the rounded edges. -/
theorem rounded_sub_mem (hx : OnCanvas x) (hn : IsExtent n) :
    0 ≤ rounded (x + n) - x ∧ rounded (x + n) - x ≤ 2 ^ 24 + 1 := by
  unfold OnCanvas at hx
  unfold IsExtent at hn
  rw [canvasLimit_eq] at *
  unfold rounded
  grind

theorem isExtent_keptExtent (hx : OnCanvas x) (hn : IsExtent n) : IsExtent (keptExtent x n) := by
  have hmem := rounded_sub_mem hx hn
  unfold IsExtent keptExtent
  rw [canvasLimit_eq]
  generalize rounded (x + n) - x = m at *
  unfold rounded
  grind

/-- At the origin every extent is left as it was set. -/
theorem keptExtent_zero (hn : IsExtent n) : keptExtent 0 n = n := by
  refine (keptExtent_eq_self_iff hn).2 (.inl ?_)
  rw [Int.zero_add]
  exact hn.2

/-- A last edge that is computed from a position and an extent. -/
theorem ofInt_add_ofInt (hx : OnCanvas x) (hn : IsExtent n) :
    Float32.ofInt x + Float32.ofInt n = Float32.ofInt (rounded (x + n)) := by
  rw [ofInt_add hx.isExact hn.isExact]
  unfold OnCanvas at hx
  unfold IsExtent at hn
  rw [canvasLimit_eq] at *
  exact ofModel_ofInt (by omega) (by omega)

/-- An extent that is computed from a position and a last edge. -/
theorem ofInt_sub_ofInt (hx : OnCanvas x) (hn : IsExtent n) :
    Float32.ofInt (rounded (x + n)) - Float32.ofInt x = Float32.ofInt (keptExtent x n) := by
  have hmem := rounded_sub_mem hx hn
  have hstop : IsExact (rounded (x + n)) := by
    unfold OnCanvas at hx
    unfold IsExtent at hn
    rw [canvasLimit_eq] at *
    exact isExact_rounded (by omega) (by omega)
  rw [ofInt_sub hstop hx.isExact]
  exact ofModel_ofInt (by omega) (by omega)

/-! ### Boxes -/

/-- The extent along an axis. -/
def Size.extent (size : Size) : Axis → Float32
  | .horizontal => size.width
  | .vertical => size.height

namespace Box

/-- The coordinate of the last edge on an axis: right or bottom. -/
def stop (b : Box) : Axis → Float32
  | .horizontal => b.right
  | .vertical => b.bottom

/-- A box that was put at the position `x` with the extent `n`. -/
structure Spans (b : Box) (axis : Axis) (x n : Int) : Prop where
  onCanvas : OnCanvas x
  isExtent : IsExtent n
  start_eq : b.start axis = Float32.ofInt x
  stop_eq : b.stop axis = Float32.ofInt (rounded (x + n))

namespace Spans

variable {b : Box} {axis : Axis}

/-- The extent of a box is computed from its edges. -/
theorem extent_eq (h : b.Spans axis x n) : b.extent axis = Float32.ofInt (keptExtent x n) := by
  have hsub : b.extent axis = b.stop axis - b.start axis := by cases axis <;> rfl
  rw [hsub, h.start_eq, h.stop_eq, ofInt_sub_ofInt h.onCanvas h.isExtent]

theorem ofCorner_origin {size : Size} (hsize : size.extent axis = Float32.ofInt n)
    (hn : IsExtent n) : (ofCorner .origin size).Spans axis 0 n where
  onCanvas := by decide
  isExtent := hn
  start_eq := by cases axis <;> rfl
  stop_eq := by
    rw [← ofInt_add_ofInt (by decide) hn, ← hsize]
    cases axis <;> rfl

/-- The box may as well have been put there with what is left of its extent. -/
theorem keep (h : b.Spans axis x n) : b.Spans axis x (keptExtent x n) :=
  { h with
    isExtent := isExtent_keptExtent h.onCanvas h.isExtent
    stop_eq := by rw [rounded_add_keptExtent h.isExtent, h.stop_eq] }

end Spans

end Box

end BoxArrow
