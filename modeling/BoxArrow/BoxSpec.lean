import BoxArrow.Plane
import BoxArrow.Item.Schema

/-!
# Positions and sizes in blocks

The block of a component may set a position and a size. A position on an axis is an integer, or a
reference `&id.keyword` that aligns the component with another one.

## Main definitions

* `Position` — a number or a reference
* `BoxSpec` — the position and size that the block of a component sets
* `CanvasSpec` — the size that the block of the canvas sets
-/

namespace BoxArrow

/-- A position on an axis. -/
inductive Position
  /-- A coordinate on the canvas, or in the content area of a container. -/
  | fixed (value : Float32)
  /-- The text after the sign `&`. -/
  | aligned (text : String)
  deriving Repr

namespace Position

/-- An integer on the canvas. Up to the limit, no integer is rounded. -/
def readCanvas (key value : String) : Except ValueError Float32 := do
  let n ← readInteger key value
  if -canvasLimit ≤ n ∧ n ≤ canvasLimit then return Float32.ofInt n
  else throw (.invalid key value .offCanvas)

/-- A position: a reference if the value starts with `&`, an integer otherwise. -/
def read (key value : String) : Except ValueError Position :=
  match value.toList with
  | '&' :: text => .ok (aligned (String.ofList (Text.trim text)))
  | _ => (readCanvas key value).map fixed

/-- A size, which is not negative. -/
def readSize (key value : String) : Except ValueError Float32 := do
  let size ← readCanvas key value
  if size < 0 then throw (.invalid key value .negativeSize) else return size

end Position

/-- The position and size that a block sets, nothing for a key that is not written. -/
structure BoxSpec where
  x : Option Position
  y : Option Position
  width : Option Float32
  height : Option Float32
  deriving Repr, Inhabited

namespace BoxSpec

/-- No key written. -/
def empty : BoxSpec := ⟨none, none, none, none⟩

/-- The keys of a position and a size. -/
def schema : Schema BoxSpec :=
  [.of "x" Position.read fun position spec => { spec with x := some position },
    .of "y" Position.read fun position spec => { spec with y := some position },
    .of "w" Position.readSize fun size spec => { spec with width := some size },
    .of "h" Position.readSize fun size spec => { spec with height := some size }]

/-- The position set on an axis. -/
def position (spec : BoxSpec) : Axis → Option Position
  | .horizontal => spec.x
  | .vertical => spec.y

end BoxSpec

/-- The size that the block of the canvas sets. -/
structure CanvasSpec where
  width : Option Float32
  height : Option Float32
  deriving Repr, Inhabited

namespace CanvasSpec

/-- No key written. -/
def empty : CanvasSpec := ⟨none, none⟩

/-- The keys of a canvas size. -/
def schema : Schema CanvasSpec :=
  [.of "w" Position.readSize fun size spec => { spec with width := some size },
    .of "h" Position.readSize fun size spec => { spec with height := some size }]

end CanvasSpec

end BoxArrow
