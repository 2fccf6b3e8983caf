import BoxArrow.Proofs.Item.Fields
import BoxArrow.Proofs.Layout.Extent
import BoxArrow.Proofs.Layout.Fit
import BoxArrow.Proofs.Layout.Pruning

/-!
# Literals in blocks

The blocks of a component without a body set its position and extent to integers. On each axis the
last integer that is given counts, also if a block before sets another one, but the extent is
computed from the edges each time the component is moved.

## Main definitions

* `IsFixed`, `IsCanvasExtent` — an integer as a position and as an extent
* `FitsAt` — an extent that is not rounded at any of some positions
* `lastLiteral?` — the last integer that some blocks give for a key
* `Declaration.applied` — the blocks of a component that are applied to it
* `Figure.IsPut` — a figure at an integer position, with an integer extent

## Main results

* `ComponentType.exists_isCanvasExtent` — the sizes of the types that are always there are integers
* `Box.Spans.fit` — a box after a block
* `Figure.IsPut.amend` — a figure after a block
* `Figure.isPut_ofDeclaration` — the figure of a declaration
-/

namespace BoxArrow

/-! ### Literals -/

/-- The key of the extent along an axis. -/
def Axis.extentKey : Axis → String
  | .horizontal => "w"
  | .vertical => "h"

/-- The integer that an item gives for a key. -/
def Item.literal? (key : String) (item : Item) : Option Int :=
  if item.key = key then Decimal.readInteger? item.value.toList else none

/-- The integers that a block gives for a key. -/
def StateDeclaration.literals (key : String) (block : StateDeclaration) : List Int :=
  (Item.ofBlock block.content).filterMap (Item.literal? key)

/-- The last integer that some blocks give for a key. -/
def lastLiteral? (key : String) (blocks : List StateDeclaration) : Option Int :=
  (blocks.flatMap (·.literals key)).getLast?

/-- The block aligns the component with another one on an axis. -/
def StateDeclaration.AlignsOn (axis : Axis) (block : StateDeclaration) : Prop :=
  ∃ item ∈ Item.ofBlock block.content, item.key = axis.name ∧ item.value.toList.head? = some '&'

instance (axis : Axis) (block : StateDeclaration) : Decidable (block.AlignsOn axis) :=
  inferInstanceAs (Decidable (∃ item ∈ _, _))

theorem lastLiteral?_append (key : String) (blocks blocks' : List StateDeclaration) :
    lastLiteral? key (blocks ++ blocks') =
      (lastLiteral? key blocks').or (lastLiteral? key blocks) := by
  rw [lastLiteral?, List.flatMap_append, List.getLast?_append]
  rfl

theorem lastLiteral?_singleton (key : String) (block : StateDeclaration) :
    lastLiteral? key [block] = (block.literals key).getLast? := by
  rw [lastLiteral?, List.flatMap_singleton]

/-! ### Positions and extents -/

/-- A position as a binary32 number. -/
def IsCanvasNumber (x : Int) (number : Float32) : Prop := OnCanvas x ∧ number = Float32.ofInt x

/-- A position that is a number. -/
def IsFixed (x : Int) (position : Position) : Prop :=
  ∃ number, IsCanvasNumber x number ∧ .fixed number = position

/-- An extent as a binary32 number. -/
def IsCanvasExtent (n : Int) (number : Float32) : Prop := IsExtent n ∧ number = Float32.ofInt n

theorem IsCanvasNumber.unique {x y : Int} {number : Float32} (h : IsCanvasNumber x number)
    (h' : IsCanvasNumber y number) : x = y :=
  (Binary32.ofInt_inj h.1.isExact h'.1.isExact).1 (h.2.symm.trans h'.2)

theorem IsCanvasExtent.unique {n m : Int} {number : Float32} (h : IsCanvasExtent n number)
    (h' : IsCanvasExtent m number) : n = m :=
  (Binary32.ofInt_inj h.1.isExact h'.1.isExact).1 (h.2.symm.trans h'.2)

/-- None of some numbers, as a position, takes the last edge of an extent beyond the limit of the
canvas, where edges are rounded. -/
def FitsAt (n : Int) (numbers : List Float32) : Prop :=
  ∀ number ∈ numbers, ∃ x, IsCanvasNumber x number ∧ x + n ≤ canvasLimit

theorem FitsAt.keptExtent_eq {x n : Int} {numbers : List Float32} (h : FitsAt n numbers)
    (hn : IsExtent n) (hx : x = 0 ∨ ∃ number ∈ numbers, IsCanvasNumber x number) :
    keptExtent x n = n := by
  rcases hx with rfl | ⟨number, hmem, hcanvas⟩
  · exact keptExtent_zero hn
  · obtain ⟨y, hy, hfits⟩ := h number hmem
    obtain rfl := hy.unique hcanvas
    exact (keptExtent_eq_self_iff hn).2 (.inl hfits)

theorem exists_isCanvasExtent_ofNat {n : Nat} (hn : n ≤ 2 ^ 24) :
    ∃ m, IsCanvasExtent m (OfNat.ofNat n) :=
  ⟨n, ⟨Int.natCast_nonneg n, by rw [canvasLimit_eq]; omega⟩, rfl⟩

/-- The sizes of the types that are always there are integers. -/
theorem ComponentType.exists_isCanvasExtent {type : ComponentType}
    (htype : type ∈ ComponentType.builtIn) (axis : Axis) :
    ∃ n, IsCanvasExtent n (type.size.extent axis) := by
  simp only [builtIn, List.mem_cons, List.not_mem_nil, or_false] at htype
  rcases htype with rfl | rfl | rfl | rfl | rfl | rfl | rfl | rfl | rfl | rfl | rfl | rfl <;>
    cases axis <;> apply exists_isCanvasExtent_ofNat <;> decide

namespace Position

variable {key value : String} {number : Float32}

theorem rel_number? {y? : Option Int} {position : Option Position}
    (h : Option.Rel IsFixed y? position) :
    Option.Rel IsCanvasNumber y? (position.bind number?) := by
  cases h with
  | none => exact .none
  | some hfixed =>
    obtain ⟨number, hcanvas, rfl⟩ := hfixed
    exact .some hcanvas

theorem readCanvas_eq_ok (h : readCanvas key value = .ok number) :
    ∃ n, Decimal.readInteger? value.toList = some n ∧ IsCanvasNumber n number := by
  obtain ⟨n, hn, h⟩ := bind_eq_ok_iff.1 h
  have hread : Decimal.readInteger? value.toList = some n := by
    unfold readInteger at hn
    split at hn
    · cases hn
      assumption
    · cases hn
  refine ⟨n, hread, ?_⟩
  split at h
  · cases h
    exact ⟨‹_›, rfl⟩
  · cases h

theorem read_eq_ok {position : Position} (h : read key value = .ok position)
    (hfree : value.toList.head? ≠ some '&') :
    ∃ n, Decimal.readInteger? value.toList = some n ∧ IsFixed n position := by
  unfold read at h
  split at h
  · rename_i htext
    rw [htext] at hfree
    exact absurd rfl hfree
  · obtain ⟨number, hnumber, hposition⟩ := map_eq_ok_iff.1 h
    obtain ⟨n, hn, hcanvas⟩ := readCanvas_eq_ok hnumber
    exact ⟨n, hn, number, hcanvas, hposition⟩

/-- A position that is read as a number is an integer. -/
theorem exists_isCanvasNumber {position : Position} (h : read key value = .ok position)
    (hnumber : position.number? = some number) : ∃ n, IsCanvasNumber n number := by
  unfold read at h
  split at h
  · cases h
    cases hnumber
  · obtain ⟨_, hread, rfl⟩ := map_eq_ok_iff.1 h
    cases hnumber
    obtain ⟨n, -, hcanvas⟩ := readCanvas_eq_ok hread
    exact ⟨n, hcanvas⟩

theorem readSize_eq_ok (h : readSize key value = .ok number) :
    ∃ n, Decimal.readInteger? value.toList = some n ∧ IsCanvasExtent n number := by
  obtain ⟨size, hsize, h⟩ := bind_eq_ok_iff.1 h
  obtain ⟨n, hn, hcanvas, rfl⟩ := readCanvas_eq_ok hsize
  split at h
  · cases h
  · cases h
    exact ⟨n, hn, ⟨Binary32.nonneg_of_not_lt hcanvas.isExact ‹_›, hcanvas.2⟩, rfl⟩

end Position

namespace BoxSpec

theorem mem_schema_iff {key : Schema.Key BoxSpec} :
    key ∈ schema ↔
      key = .of "x" Position.read (fun position spec => { spec with x := some position }) ∨
      key = .of "y" Position.read (fun position spec => { spec with y := some position }) ∨
      key = .of "w" Position.readSize (fun size spec => { spec with width := some size }) ∨
      key = .of "h" Position.readSize (fun size spec => { spec with height := some size }) := by
  simp [schema]

theorem writes_position (axis : Axis) :
    schema.Writes axis.name (Position.read axis.name) fun spec => spec.position axis where
  known := by cases axis <;> simp [schema, Schema.Key.of, Axis.name]
  update := by
    intro key hkey value update hread
    cases axis <;> rcases mem_schema_iff.1 hkey with rfl | rfl | rfl | rfl <;>
      obtain ⟨b, hb, rfl⟩ := map_eq_ok_iff.1 hread <;>
      first | exact .inl ⟨rfl, b, hb, fun _ => rfl⟩ | exact .inr ⟨by decide, fun _ => rfl⟩

theorem writes_extent (axis : Axis) :
    schema.Writes axis.extentKey (Position.readSize axis.extentKey) fun spec =>
      spec.extent axis where
  known := by cases axis <;> simp [schema, Schema.Key.of, Axis.extentKey]
  update := by
    intro key hkey value update hread
    cases axis <;> rcases mem_schema_iff.1 hkey with rfl | rfl | rfl | rfl <;>
      obtain ⟨b, hb, rfl⟩ := map_eq_ok_iff.1 hread <;>
      first | exact .inl ⟨rfl, b, hb, fun _ => rfl⟩ | exact .inr ⟨by decide, fun _ => rfl⟩

variable {block : StateDeclaration} {spec : BoxSpec} {axis : Axis}

/-- The position of a block that aligns nothing is the last one that it gives. -/
theorem rel_position (h : schema.read block.content .empty = .ok spec)
    (hfree : ¬ block.AlignsOn axis) :
    Option.Rel IsFixed (block.literals axis.name).getLast? (spec.position axis) := by
  refine (writes_position axis).rel_read h (by cases axis <;> rfl) ⟨?_, ?_⟩
  · intro item hitem hkey position hposition
    rw [Item.literal?, if_pos hkey]
    exact Position.read_eq_ok hposition fun hsign => hfree ⟨item, hitem, hkey, hsign⟩
  · exact fun item _ hkey => if_neg hkey

/-- The extent of a block is the last one that it gives. -/
theorem rel_extent (h : schema.read block.content .empty = .ok spec) (axis : Axis) :
    Option.Rel IsCanvasExtent (block.literals axis.extentKey).getLast? (spec.extent axis) := by
  refine (writes_extent axis).rel_read h (by cases axis <;> rfl) ⟨?_, ?_⟩
  · intro item hitem hkey number hnumber
    rw [Item.literal?, if_pos hkey]
    exact Position.readSize_eq_ok hnumber
  · exact fun item _ hkey => if_neg hkey

end BoxSpec

/-! ### Boxes -/

theorem getD_of_rel {α β : Type} {R : α → β → Prop} {p : α → Prop} {a? : Option α} {b? : Option β}
    (h : Option.Rel R a? b?) (hrel : ∀ a b, R a b → p a) {a : α} (ha : p a) : p (a?.getD a) := by
  cases h with
  | none => exact ha
  | some h => exact hrel _ _ h

namespace Box

open Binary32 (rounded)

variable {x n : Int} {y? m? : Option Int}

/-- Edges after integers are given. The extent is set at the position before, and kept when the
edges move. -/
theorem fitEdges_eq (hx : OnCanvas x) (hn : IsExtent n) {size : Option Float32}
    {number : Option Float32} (hsize : Option.Rel IsCanvasExtent m? size)
    (hnumber : Option.Rel IsCanvasNumber y? number) :
    fitEdges size number (.ofInt x) (.ofInt (rounded (x + n))) =
      (.ofInt (y?.getD x), .ofInt (rounded (y?.getD x + keptExtent x (m?.getD n)))) := by
  -- Whether the block gives an extent or not, the far edge is that of an integer extent at `x`.
  have hm : IsExtent (m?.getD n) ∧ size.elim (.ofInt (rounded (x + n))) (.ofInt x + ·) =
      Float32.ofInt (rounded (x + m?.getD n)) := by
    cases hsize with
    | none => exact ⟨hn, rfl⟩
    | some hextent =>
      obtain ⟨hextent, rfl⟩ := hextent
      exact ⟨hextent, ofInt_add_ofInt hx hextent⟩
  obtain ⟨hextent, hsized⟩ := hm
  unfold fitEdges
  rw [hsized]
  cases hnumber with
  | none =>
    rw [Option.getD_none, rounded_add_keptExtent hextent]
    rfl
  | some hcanvas =>
    obtain ⟨hcanvas, rfl⟩ := hcanvas
    rw [Option.getD_some, ← ofInt_add_ofInt hcanvas (isExtent_keptExtent hx hextent),
      ← ofInt_sub_ofInt hx hextent]
    rfl

/-- A box after a block. -/
theorem Spans.fit {box : Box} {axis : Axis} (h : box.Spans axis x n) {spec : BoxSpec}
    (hnumber : Option.Rel IsCanvasNumber y? ((spec.position axis).bind Position.number?))
    (hextent : Option.Rel IsCanvasExtent m? (spec.extent axis)) :
    (box.fit spec).Spans axis (y?.getD x) (keptExtent x (m?.getD n)) := by
  have hedges := edges_fit spec axis box
  rw [h.start_eq, h.stop_eq, fitEdges_eq h.onCanvas h.isExtent hextent hnumber] at hedges
  obtain ⟨hstart, hstop⟩ := Prod.mk.inj hedges
  refine ⟨?_, isExtent_keptExtent h.onCanvas ?_, hstart, hstop⟩
  · exact getD_of_rel hnumber (fun _ _ hcanvas => hcanvas.1) h.onCanvas
  · exact getD_of_rel hextent (fun _ _ hextent => hextent.1) h.isExtent

end Box

/-! ### Figures -/

namespace Figure

/-- The block, if there is one that can be applied to the figure. -/
def accepted (figure : Figure) (placed : Bool) (block : Option StateDeclaration) :
    List StateDeclaration :=
  block.toList.filter fun block => !figure.refuses placed block

end Figure

namespace Declaration

variable (catalog : Catalog) (d : Declaration)

/-- The block of the identifier, if it can be applied to the component. -/
def ownApplied : List StateDeclaration :=
  (Figure.initial catalog none d).accepted true d.ownState

/-- The block of the state tag, if it can be applied to the component after the other one. -/
def tagApplied : List StateDeclaration :=
  ((Figure.initial catalog none d).tryAmend true d.ownState).1.accepted (!d.isContainer)
    (Figure.otherState d)

/-- The blocks that are applied to the component, in their order. -/
def applied : List StateDeclaration := d.ownApplied catalog ++ d.tagApplied catalog

end Declaration

namespace Figure

variable (figure : Figure) (placed : Bool) {block : StateDeclaration} {figure' : Figure}

theorem exists_of_amend_eq_ok (h : figure.amend true block = .ok figure') :
    ∃ spec record, BoxSpec.schema.read block.content .empty = .ok spec ∧
      { figure with record := record }.fit spec block.span = figure' := by
  rw [amend_eq] at h
  obtain ⟨spec, hspec, h⟩ := bind_eq_ok_iff.1 h
  obtain ⟨record, -, rfl⟩ := map_eq_ok_iff.1 h
  exact ⟨spec, record, hspec, rfl⟩

/-- A figure is left as it is, or there is a block that can be applied to it. -/
theorem tryAmend_cases (block : Option StateDeclaration) :
    figure.accepted placed block = [] ∧ (figure.tryAmend placed block).1 = figure ∨
      ∃ b, figure.accepted placed block = [b] ∧
        figure.amend placed b = .ok (figure.tryAmend placed block).1 := by
  cases block with
  | none => exact .inl ⟨rfl, rfl⟩
  | some block =>
    unfold accepted refuses Figure.tryAmend
    cases hamend : figure.amend placed block with
    | error e => exact .inl (by simp [hamend, Except.isOk, Except.toBool])
    | ok figure' => exact .inr ⟨block, by simp [hamend, Except.isOk, Except.toBool]⟩

variable {figure placed}

/-- A figure at an integer position along an axis, with an integer extent, that is not to be
aligned. -/
structure IsPut (figure : Figure) (axis : Axis) (x n : Int) : Prop where
  spans : figure.box.Spans axis x n
  reference_eq : figure.reference axis = none

variable {axis axis' : Axis} {x n : Int}

namespace IsPut

theorem keep (h : figure.IsPut axis x n) : figure.IsPut axis x (keptExtent x n) :=
  ⟨h.spans.keep, h.reference_eq⟩

/-- A figure after a block. Its extent is set at its position before, and kept when it moves. -/
theorem fit (h : figure.IsPut axis x n) {spec : BoxSpec} {y? m? : Option Int}
    (hposition : Option.Rel IsFixed y? (spec.position axis))
    (hextent : Option.Rel IsCanvasExtent m? (spec.extent axis)) (block : Span) :
    (figure.fit spec block).IsPut axis (y?.getD x) (keptExtent x (m?.getD n)) where
  spans := by
    rw [box_fit]
    exact h.spans.fit (Position.rel_number? hposition) hextent
  reference_eq := by
    rw [reference_fit, h.reference_eq]
    generalize spec.position axis = position at hposition
    cases hposition with
    | none => rfl
    | some hfixed =>
      obtain ⟨number, -, rfl⟩ := hfixed
      rfl

/-- A figure after a block that can be read. -/
theorem amend (h : figure.IsPut axis x n) (hamend : figure.amend true block = .ok figure')
    (hfree : ¬ block.AlignsOn axis) :
    figure'.IsPut axis ((block.literals axis.name).getLast?.getD x)
      (keptExtent x ((block.literals axis.extentKey).getLast?.getD n)) := by
  obtain ⟨spec, record, hspec, rfl⟩ := figure.exists_of_amend_eq_ok hamend
  have hput : { figure with record := record }.IsPut axis x n := ⟨h.spans, h.reference_eq⟩
  exact hput.fit (BoxSpec.rel_position hspec hfree) (BoxSpec.rel_extent hspec axis) block.span

/-- A figure after a block, which is void if it cannot be read. -/
theorem tryAmend (h : figure.IsPut axis x n) (block : Option StateDeclaration)
    (hfree : ∀ b ∈ figure.accepted true block, ¬ b.AlignsOn axis) :
    (figure.tryAmend true block).1.IsPut axis
      ((lastLiteral? axis.name (figure.accepted true block)).getD x)
      (keptExtent x ((lastLiteral? axis.extentKey (figure.accepted true block)).getD n)) := by
  rcases figure.tryAmend_cases true block with ⟨haccepted, htry⟩ | ⟨b, haccepted, hb⟩
  · rw [haccepted, htry]
    exact h.keep
  · rw [haccepted] at hfree ⊢
    rw [lastLiteral?_singleton, lastLiteral?_singleton]
    exact h.amend hb (hfree b List.mem_cons_self)

end IsPut

/-- An extent that is given by a block that can be read, or else one from before, is one that a
block may give. -/
theorem isExtent_lastLiteral? (block : Option StateDeclaration) (hn : IsExtent n) :
    IsExtent ((lastLiteral? axis.extentKey (figure.accepted true block)).getD n) := by
  rcases figure.tryAmend_cases true block with ⟨haccepted, -⟩ | ⟨b, haccepted, hb⟩
  · rw [haccepted]
    exact hn
  · obtain ⟨spec, -, hspec, -⟩ := figure.exists_of_amend_eq_ok hb
    have hrel := BoxSpec.rel_extent hspec axis
    rw [haccepted, lastLiteral?_singleton]
    exact getD_of_rel hrel (fun _ _ hextent => hextent.1) hn

/-- An extent that the blocks of a component give, or else its default, is one that a block may
give. -/
theorem isExtent_lastLiteral?_applied {catalog : Catalog} {d : Declaration}
    (hbody : d.isContainer = false) (hn : IsExtent n) :
    IsExtent ((lastLiteral? axis.extentKey (d.applied catalog)).getD n) := by
  rw [Declaration.applied, lastLiteral?_append, Option.getD_or, Declaration.tagApplied, hbody]
  exact isExtent_lastLiteral? _ (isExtent_lastLiteral? _ hn)

/-- The figure of a declaration without a body. Its extent is kept twice, where the first block has
put it and where it is in the end. -/
theorem isPut_ofDeclaration {catalog : Catalog} {d : Declaration} (hbody : d.isContainer = false)
    {default : Int}
    (hdefault : IsCanvasExtent default ((catalog.typeFor d.typeName false).size.extent axis))
    (hfree : ∀ block ∈ d.applied catalog, ¬ block.AlignsOn axis) :
    (ofDeclaration catalog none d).1.IsPut axis
      ((lastLiteral? axis.name (d.applied catalog)).getD 0)
      (keptExtent ((lastLiteral? axis.name (d.ownApplied catalog)).getD 0)
        ((lastLiteral? axis.extentKey (d.applied catalog)).getD default)) := by
  obtain ⟨hextent, hsize⟩ := hdefault
  have hinitial : (initial catalog none d).IsPut axis 0 default := by
    refine ⟨.ofCorner_origin ?_ hextent, by cases axis <;> rfl⟩
    rw [hbody, hsize]
  have hown := hinitial.tryAmend d.ownState fun b hb => hfree b (List.mem_append_left _ hb)
  rw [keptExtent_zero (isExtent_lastLiteral? _ hextent)] at hown
  -- The block of the tag finds the box where the first block has put it.
  have htag := hown.tryAmend (otherState d) fun b hb => hfree b (List.mem_append_right _ ?_)
  · rw [Declaration.applied, lastLiteral?_append, lastLiteral?_append, Option.getD_or,
      Option.getD_or]
    rw [ofDeclaration]
    dsimp only
    rw [Declaration.tagApplied, hbody]
    exact htag
  · rw [Declaration.tagApplied, hbody]
    exact hb

end Figure

end BoxArrow
