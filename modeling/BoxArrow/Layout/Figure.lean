import BoxArrow.BoxSpec
import BoxArrow.Component.Catalog
import BoxArrow.Layout.Warning

/-!
# Figures

A figure is a component while the layout is computed: its box, its display properties, and the
references that are still to be followed. The blocks of a component are applied to its figure one
after the other, each as a whole or not at all.

## Main definitions

* `Figure` — a component during layout
* `Figure.amend` — the figure after a block, or the error that makes the block void
* `Figure.ofDeclaration` — the figure of a declaration, relative to the content area it stands in
-/

namespace BoxArrow

/-- A reference that is still to be followed. -/
structure Reference where
  /-- The text after the sign `&`. -/
  text : String
  /-- The span of the block that the reference is written in. -/
  block : Span
  deriving DecidableEq, Repr

/-- A component during layout. -/
structure Figure where
  id : String
  typeTag : String
  /-- The position of the container in the list of figures. -/
  parent : Option Nat
  /-- The positions of the members in the list of figures. -/
  children : List Nat
  depth : Nat
  box : Box
  record : DisplayRecord
  referenceX : Option Reference
  referenceY : Option Reference
  deriving Repr, Inhabited

namespace Figure

/-- The reference on an axis that is still to be followed. -/
def reference (figure : Figure) : Axis → Option Reference
  | .horizontal => figure.referenceX
  | .vertical => figure.referenceY

/-- The figure with another reference on an axis, or with none. -/
def withReference (figure : Figure) : Axis → Option Reference → Figure
  | .horizontal, reference => { figure with referenceX := reference }
  | .vertical, reference => { figure with referenceY := reference }

/-- The figure moved by an offset. -/
def move (offset : Point) (figure : Figure) : Figure :=
  { figure with box := figure.box.move offset }

/-- The figure with its extent along an axis set, if a value is given. -/
def setSize (axis : Axis) (value : Option Float32) (figure : Figure) : Figure :=
  value.elim figure fun value => { figure with box := figure.box.resize axis value }

/-- The figure with its position on an axis set, if one is given. A number moves the figure and
replaces a reference written before. A reference waits and leaves the figure where it is. -/
def setPosition (axis : Axis) (block : Span) (position : Option Position) (figure : Figure) :
    Figure :=
  match position with
  | none => figure
  | some (.fixed value) =>
    { figure with box := figure.box.moveTo axis value }.withReference axis none
  | some (.aligned text) => figure.withReference axis (some ⟨text, block⟩)

/-- The figure with the position and size of a block, the size first. -/
def fit (spec : BoxSpec) (block : Span) (figure : Figure) : Figure :=
  (((figure.setSize .horizontal spec.width).setSize .vertical spec.height
    ).setPosition .horizontal block spec.x).setPosition .vertical block spec.y

/-- The figure after a block, or the first error in the block. Position and size are read before
the display properties, and only if the block has a say in them. -/
def amend (placed : Bool) (block : StateDeclaration) (figure : Figure) :
    Except ValueError Figure := do
  -- Both parts read the whole block, so a value that either refuses makes it void.
  let spec ←
    if placed then BoxSpec.schema.read block.content .empty else pure BoxSpec.empty
  let record ← figure.record.amend block.content
  return { figure with record := record }.fit spec block.span

/-- The figure after a block, or as it was, with a warning, if there is an error in the block. -/
def tryAmend (placed : Bool) (block : Option StateDeclaration) (figure : Figure) :
    Figure × List Warning :=
  match block with
  | none => (figure, [])
  | some block =>
    match figure.amend placed block with
    | .ok figure => (figure, [])
    | .error e => (figure, [.invalidBlock block e])

/-- The figure of a declaration before its blocks are applied. -/
def initial (catalog : Catalog) (parent : Option Nat) (declaration : Declaration) : Figure :=
  let type := catalog.typeFor declaration.typeName declaration.isContainer
  { id := declaration.name
    typeTag := declaration.typeName.getD type.tag
    parent := parent
    children := []
    depth := declaration.depth
    box := .ofCorner .origin type.size
    record := type.fresh
    referenceX := none
    referenceY := none }

/-- The block of the state tag, unless the tag is the identifier of the component itself. -/
def otherState (declaration : Declaration) : Option StateDeclaration :=
  if declaration.stateTag = some declaration.name then none else declaration.taggedState

/-- The figure of a declaration with its blocks applied, first the one of its identifier, then the
one of its state tag. A container takes its position and size from the first alone. -/
def ofDeclaration (catalog : Catalog) (parent : Option Nat) (declaration : Declaration) :
    Figure × List Warning :=
  let (figure, ownWarnings) :=
    (initial catalog parent declaration).tryAmend true declaration.ownState
  let (figure, tagWarnings) := figure.tryAmend (!declaration.isContainer) (otherState declaration)
  (figure, ownWarnings ++ tagWarnings)

end Figure

end BoxArrow
