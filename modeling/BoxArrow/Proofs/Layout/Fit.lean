import BoxArrow.Layout.Figure
import BoxArrow.Proofs.Layout.Extent

/-!
# Boxes fitted to a block

The position and size that a block asks for change the box of a figure and the references that are
left to be followed, each on its own and on each axis alone. A size sets the last edge, as the first
one stands. A position is either a number, where the box then starts, or a reference.

## Main definitions

* `Box.fitEdges` — the edges on an axis after a size and a position
* `Box.fit` — a box with the position and size of a block
* `Position.number?`, `Position.reference?` — what a position gives to the box, and what it leaves

## Main results

* `Figure.box_fit`, `Figure.reference_fit` — the box and the references of a figure after a block
* `Box.edges_fit` — the edges of a box after a block
-/

namespace BoxArrow

/-- The position if it is a number. -/
def Position.number? : Position → Option Float32
  | fixed value => some value
  | aligned _ => none

/-- The reference that a position in a block leaves to be followed. -/
def Position.reference? (block : Span) : Position → Option Reference
  | fixed _ => none
  | aligned text => some ⟨text, block⟩

/-! ### Boxes -/

/-- The extent set along an axis. -/
def BoxSpec.extent (spec : BoxSpec) : Axis → Option Float32
  | .horizontal => spec.width
  | .vertical => spec.height

namespace Box

/-- The first and the last edge on an axis after a size and a position are given. The size sets the
last edge, and then the position moves both edges, the distance between them kept. -/
def fitEdges (size position : Option Float32) (start stop : Float32) : Float32 × Float32 :=
  let stop := size.elim stop (start + ·)
  position.elim (start, stop) fun value => (value, value + (stop - start))

/-- The box with the position and size of a block. -/
def fit (spec : BoxSpec) (box : Box) : Box :=
  let (left, right) := fitEdges spec.width (spec.x.bind Position.number?) box.left box.right
  let (top, bottom) := fitEdges spec.height (spec.y.bind Position.number?) box.top box.bottom
  ⟨left, top, right, bottom⟩

/-- A block changes the edges on each axis alone. -/
theorem edges_fit (spec : BoxSpec) (axis : Axis) (box : Box) :
    ((box.fit spec).start axis, (box.fit spec).stop axis) = fitEdges (spec.extent axis)
      ((spec.position axis).bind Position.number?) (box.start axis) (box.stop axis) := by
  cases axis <;> rfl

/-- A box starts where its block puts it, and else where it did before. -/
theorem start_fit (spec : BoxSpec) (axis : Axis) (box : Box) :
    (box.fit spec).start axis =
      ((spec.position axis).bind Position.number?).getD (box.start axis) := by
  refine (congrArg Prod.fst (edges_fit spec axis box)).trans ?_
  unfold fitEdges
  cases (spec.position axis).bind Position.number? <;> rfl

end Box

/-! ### Figures -/

namespace Figure

theorem box_fit (spec : BoxSpec) (block : Span) (figure : Figure) :
    (figure.fit spec block).box = figure.box.fit spec := by
  obtain ⟨x, y, width, height⟩ := spec
  cases width <;> cases height <;> rcases x with _ | _ | _ <;> rcases y with _ | _ | _ <;> rfl

theorem record_setSize (axis : Axis) (value : Option Float32) (figure : Figure) :
    (figure.setSize axis value).record = figure.record := by
  cases value <;> rfl

theorem record_setPosition (axis : Axis) (block : Span) (position : Option Position)
    (figure : Figure) : (figure.setPosition axis block position).record = figure.record := by
  rcases position with _ | _ | _ <;> cases axis <;> rfl

theorem record_fit (spec : BoxSpec) (block : Span) (figure : Figure) :
    (figure.fit spec block).record = figure.record := by
  rw [fit, record_setPosition, record_setPosition, record_setSize, record_setSize]

theorem reference_setSize (axis axis' : Axis) (value : Option Float32) (figure : Figure) :
    (figure.setSize axis value).reference axis' = figure.reference axis' := by
  cases value <;> cases axis' <;> rfl

theorem reference_setPosition (axis : Axis) (block : Span) (position : Option Position)
    (figure : Figure) :
    (figure.setPosition axis block position).reference axis =
      position.elim (figure.reference axis) (Position.reference? block) := by
  rcases position with _ | _ | _ <;> cases axis <;> rfl

theorem reference_setPosition_of_ne {axis axis' : Axis} (h : axis ≠ axis') (block : Span)
    (position : Option Position) (figure : Figure) :
    (figure.setPosition axis block position).reference axis' = figure.reference axis' := by
  rcases position with _ | _ | _ <;> cases axis <;> cases axis' <;>
    first | rfl | exact absurd rfl h

/-- A block leaves the reference of its position, and else the one from before. -/
theorem reference_fit (spec : BoxSpec) (block : Span) (axis : Axis) (figure : Figure) :
    (figure.fit spec block).reference axis =
      (spec.position axis).elim (figure.reference axis) (Position.reference? block) := by
  unfold fit
  cases axis with
  | horizontal =>
    have hne : Axis.vertical ≠ .horizontal := nofun
    rw [reference_setPosition_of_ne hne, reference_setPosition, reference_setSize,
      reference_setSize]
    rfl
  | vertical =>
    have hne : Axis.horizontal ≠ .vertical := nofun
    rw [reference_setPosition, reference_setPosition_of_ne hne, reference_setSize,
      reference_setSize]
    rfl

end Figure

end BoxArrow
