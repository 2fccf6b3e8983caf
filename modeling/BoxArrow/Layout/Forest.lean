import BoxArrow.Layout.Figure

/-!
# Forests of figures

The figures of a diagram stand in one list, each container before its members. A figure knows the
positions of its container and of its members in the list. Moving a figure moves all that is inside
it by the same offset.

## Main definitions

* `Forest` — the figures of a diagram
* `Forest.place` — the forest with the figures of further declarations
* `Forest.subtree` — the positions of a figure and of all that is inside it
* `Forest.move` — the forest with one figure moved
* `Forest.lastIndex` — the position of the last figure with a given identifier
-/

namespace BoxArrow

/-- The figures of a diagram, each container before its members. -/
abbrev Forest := List Figure

/-- The fractions of the size of a container that lie left of and above its content area. -/
def contentMargin : Size := ⟨0.01875, 0.1333333⟩

/-- The top left corner of the content area of a container. -/
def Box.contentOrigin (b : Box) : Point :=
  ⟨b.left + b.width * contentMargin.width, b.top + b.height * contentMargin.height⟩

namespace Forest

/-- The forest with one more figure. It is moved into the content area of its container, which gets
to know its position. -/
def push (forest : Forest) (figure : Figure) : Forest :=
  match figure.parent with
  | none => forest ++ [figure]
  | some p =>
    -- The container has its final size by now, since its blocks are applied before its members.
    let origin := (forest[p]?.map fun container => container.box.contentOrigin).getD .origin
    forest.modify p (fun container =>
      { container with children := container.children ++ [forest.length] }) ++
      [figure.move origin]

/-- The forest with the figures of the given declarations and of all that is inside them, and the
warnings about their blocks. -/
def place (catalog : Catalog) (parent : Option Nat) :
    List Declaration → Forest × List Warning → Forest × List Warning
  | [], result => result
  | declaration@{ children, .. } :: declarations, (forest, warnings) =>
    let (figure, found) := Figure.ofDeclaration catalog parent declaration
    place catalog parent declarations
      (place catalog (some forest.length) children (forest.push figure, warnings ++ found))

/-- The positions of a figure and of all that is inside it, up to a given number of levels. -/
def subtree (forest : Forest) : Nat → Nat → List Nat
  | 0, _ => []
  | levels + 1, i =>
    i :: ((forest[i]?.map Figure.children).getD []).flatMap (subtree forest levels)

/-- The forest with a figure, and all that is inside it, moved by an offset. There are no more
levels than figures. -/
def move (forest : Forest) (i : Nat) (offset : Point) : Forest :=
  (forest.subtree forest.length i).foldl (fun forest j => forest.modify j (Figure.move offset))
    forest

/-- The position of the last figure with each identifier, in the order of the first ones. -/
def lastIndex (forest : Forest) : OrderedMap Nat :=
  .ofList ((forest.map Figure.id).zipIdx)

end Forest

end BoxArrow
