/-!
# The plane of the canvas

Coordinates are binary32 numbers, `x` grows to the right and `y` downwards. A box keeps the
coordinates of its four edges, so that its width and height are differences.

## Main definitions

* `Axis` — one of the two axes of the canvas
* `Point`, `Size`, `Box` — places, extents and upright rectangles
* `Box.moveTo` — the box moved along one axis, its extent kept
* `Box.move` — the box moved by an offset
-/

namespace BoxArrow

/-- An axis of the canvas. -/
inductive Axis
  | horizontal
  | vertical
  deriving DecidableEq, Repr

/-- The name of the axis in messages. -/
def Axis.name : Axis → String
  | horizontal => "x"
  | vertical => "y"

/-- A place on the canvas, or an offset between two places. -/
structure Point where
  x : Float32
  y : Float32
  deriving Repr, Inhabited

/-- The width and height of a component or of the canvas. -/
structure Size where
  width : Float32
  height : Float32
  deriving Repr, Inhabited

namespace Point

/-- The top left corner of the canvas. -/
def origin : Point := ⟨0, 0⟩

/-- Whether two points share one coordinate up to `epsilon`. -/
def isLevelWith (epsilon : Float32) (p q : Point) : Bool :=
  (p.x - q.x).abs < epsilon || (p.y - q.y).abs < epsilon

end Point

/-- An upright rectangle, given by the coordinates of its edges. -/
structure Box where
  left : Float32
  top : Float32
  right : Float32
  bottom : Float32
  deriving Repr, Inhabited

namespace Box

/-- The box with a given top left corner and size. -/
def ofCorner (corner : Point) (size : Size) : Box :=
  ⟨corner.x, corner.y, corner.x + size.width, corner.y + size.height⟩

/-- The horizontal extent. -/
def width (b : Box) : Float32 := b.right - b.left

/-- The vertical extent. -/
def height (b : Box) : Float32 := b.bottom - b.top

/-- The coordinate of the first edge on an axis: left or top. -/
def start (b : Box) : Axis → Float32
  | .horizontal => b.left
  | .vertical => b.top

/-- The extent along an axis. -/
def extent (b : Box) : Axis → Float32
  | .horizontal => b.width
  | .vertical => b.height

/-- The point halfway between the corners. -/
def center (b : Box) : Point := ⟨(b.left + b.right) / 2, (b.top + b.bottom) / 2⟩

/-- The box moved along an axis so that it starts at `value`. Its extent is computed first
and then added to the new start. -/
def moveTo (b : Box) : Axis → Float32 → Box
  | .horizontal, value => { b with left := value, right := value + b.width }
  | .vertical, value => { b with top := value, bottom := value + b.height }

/-- The box with another extent along an axis, its first edge kept. -/
def resize (b : Box) : Axis → Float32 → Box
  | .horizontal, value => { b with right := b.left + value }
  | .vertical, value => { b with bottom := b.top + value }

/-- The box with all its edges moved by an offset. -/
def move (b : Box) (offset : Point) : Box :=
  ⟨b.left + offset.x, b.top + offset.y, b.right + offset.x, b.bottom + offset.y⟩

end Box

end BoxArrow
