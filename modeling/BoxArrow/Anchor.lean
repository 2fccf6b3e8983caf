import BoxArrow.Plane
import BoxArrow.Text.Chars

/-!
# Anchors

An anchor names the place on the border of a component where a connection ends. It is written as
compass letters (`n`, `e`, `sw`), as a word (`top`, `left`) or not at all. Each letter chooses a
side on one axis, and the first letter chooses the edge that a two-letter anchor sits on. Text
that is neither stands for the center.

## Main definitions

* `Side` — the near edge, the middle or the far edge along one axis
* `Anchor` — the written text with the side on each axis
* `Anchor.ofText` — the anchor that a text stands for
* `Anchor.placeOn` — the place of an anchor on a box
-/

namespace BoxArrow

/-- A position along an axis: at the smallest coordinate, in the middle, or at the largest. -/
inductive Side
  | near
  | middle
  | far
  deriving DecidableEq, Repr

/-- The side as a direction: `-1`, `0` or `1`. -/
def Side.sign : Side → Int
  | near => -1
  | middle => 0
  | far => 1

/-- The sides that compass letters choose, and the axis of the first letter. -/
structure Compass where
  horizontal : Side
  vertical : Side
  /-- The axis of the edge that a corner anchor sits on. -/
  primary : Option Axis
  deriving DecidableEq, Repr

namespace Compass

/-- No side chosen on either axis. -/
def center : Compass := ⟨.middle, .middle, none⟩

/-- The axis and side of a compass letter. -/
def letter? : Char → Option (Axis × Side)
  | 'n' => some (.vertical, .near)
  | 's' => some (.vertical, .far)
  | 'e' => some (.horizontal, .far)
  | 'w' => some (.horizontal, .near)
  | _ => none

/-- The compass after one more letter. The side replaces the one chosen before on its axis, and
the first letter alone chooses the primary axis. -/
def turn (compass : Compass) : Axis × Side → Compass
  | (.horizontal, side) =>
    { compass with horizontal := side, primary := some (compass.primary.getD .horizontal) }
  | (.vertical, side) =>
    { compass with vertical := side, primary := some (compass.primary.getD .vertical) }

/-- The compass after the letters of a text, or nothing if one of them is no compass letter. -/
def read? (compass : Compass) : List Char → Option Compass
  | [] => some compass
  | c :: letters => (letter? c).bind fun move => (compass.turn move).read? letters

/-- The compass that a trimmed lowercase text stands for. -/
def ofText (text : String) : Compass :=
  match text with
  | "" | "c" | "center" => center
  | "north" | "top" => ⟨.middle, .near, some .vertical⟩
  | "south" | "bottom" => ⟨.middle, .far, some .vertical⟩
  | "east" | "right" => ⟨.far, .middle, some .horizontal⟩
  | "west" | "left" => ⟨.near, .middle, some .horizontal⟩
  | _ => (center.read? text.toList).getD center

end Compass

/-- An anchor: the text as written, and the sides that it stands for. -/
structure Anchor extends Compass where
  /-- The text as written. -/
  text : String
  deriving DecidableEq, Repr

namespace Anchor

/-- The anchor that a text stands for, ASCII case and outer blanks aside. -/
def ofText (text : String) : Anchor :=
  { Compass.ofText (Text.asciiLower (Text.trim text.toList)) with text := text }

/-- The side chosen on an axis. -/
def side (anchor : Anchor) : Axis → Side
  | .horizontal => anchor.horizontal
  | .vertical => anchor.vertical

/-- Whether no side is chosen. -/
def isCenter (anchor : Anchor) : Bool :=
  anchor.horizontal = .middle && anchor.vertical = .middle

/-- Whether a side is chosen on both axes. -/
def isCorner (anchor : Anchor) : Bool :=
  anchor.horizontal ≠ .middle && anchor.vertical ≠ .middle

/-- The text as written, or `center` if nothing was written. -/
def display (anchor : Anchor) : String := if anchor.text.isEmpty then "center" else anchor.text

/-- The coordinate of a side, given those of the two edges and of the middle. -/
def edge (near middle far : Float32) : Side → Float32
  | .near => near
  | .middle => middle
  | .far => far

/-- How far along an edge a corner anchor sits, as a fraction of the length of the edge. -/
def fraction : Side → Float32
  | .near => 0.25
  | _ => 0.75

/-- The place of the anchor on a box. With a side on one axis it is the middle of that edge.
With sides on both, it lies on the edge of the primary axis, a quarter of the way along it on the
side of the other axis. -/
def placeOn (anchor : Anchor) (b : Box) : Point :=
  let edgeX := edge b.left b.center.x b.right anchor.horizontal
  let edgeY := edge b.top b.center.y b.bottom anchor.vertical
  if anchor.isCorner then
    match anchor.primary.getD .horizontal with
    | .horizontal => ⟨edgeX, b.top + b.height * fraction anchor.vertical⟩
    | .vertical => ⟨b.left + b.width * fraction anchor.horizontal, edgeY⟩
  else ⟨edgeX, edgeY⟩

end Anchor

end BoxArrow
