import BoxArrow.Anchor

/-!
# Routes of connections

A connection between two points that share a coordinate is a straight line. Otherwise it leaves
its start along one axis, turns after a fixed distance, and turns once more to reach its end.

## Main definitions

* `Route` — a polyline from a start to an end
* `Route.leavingAxis` — the axis along which a connection leaves its start
* `Route.between` — the route between two anchored points
-/

namespace BoxArrow

/-- A polyline. -/
structure Route where
  start : Point
  bends : List Point
  stop : Point
  deriving Repr

namespace Route

/-- Coordinates closer than this count as equal. -/
def tolerance : Float32 := 1e-4

/-- All points of the line, from its start to its end. -/
def points (route : Route) : List Point := route.start :: route.bends ++ [route.stop]

/-- The axis along which a connection leaves its start: vertical if the anchor of the source has a
vertical side and no horizontal one. -/
def leavingAxis (source : Anchor) : Axis :=
  if source.horizontal = .middle ∧ source.vertical ≠ .middle then .vertical else .horizontal

/-- The direction of a side along its axis. -/
def direction : Side → Float32
  | .near => -1
  | .middle => 0
  | .far => 1

/-- The direction in which a connection leaves its start along an axis: that of the source's
anchor, else that of the target's, else forward. -/
def leavingDirection (axis : Axis) (source target : Anchor) : Float32 :=
  if source.side axis ≠ .middle then direction (source.side axis)
  else if target.side axis ≠ .middle then direction (target.side axis)
  else 1

/-- The route between two anchored points that turns `padding` away from its start. -/
def between (start : Point) (source : Anchor) (stop : Point) (target : Anchor)
    (padding : Float32) : Route :=
  if start.isLevelWith tolerance stop then ⟨start, [], stop⟩
  else
    let axis := leavingAxis source
    let distance := leavingDirection axis source target * padding
    match axis with
    | .horizontal =>
      let x := start.x + distance
      ⟨start, [⟨x, start.y⟩, ⟨x, stop.y⟩], stop⟩
    | .vertical =>
      let y := start.y + distance
      ⟨start, [⟨start.x, y⟩, ⟨stop.x, y⟩], stop⟩

end Route

end BoxArrow
