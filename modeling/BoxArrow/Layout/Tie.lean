import BoxArrow.Layout.Dependency
import BoxArrow.Layout.Forest
import BoxArrow.Text.Chars

/-!
# Ties between figures

A position written as `&id.keyword` ties a figure to another one: their first edges, their middles
or their last edges coincide. A figure depends on its container, which takes it along when it
moves, and on the figure that it is tied to. Figures are moved on one axis after the other, and on
each axis only after everything that they depend on. A figure that depends on itself keeps its
place.

## Main definitions

* `Alignment` — first edges, middles or last edges
* `Alignment.position` — the coordinate of an aligned figure
* `Tie` — another figure, and how to align with it
* `Tie.ofReference` — the tie that a reference asks for, or the warning about it
* `Forest.settle` — the forest with all ties fulfilled
-/

namespace BoxArrow

/-- The parts of two figures that are made to coincide along an axis. -/
inductive Alignment
  /-- The left or top edges. -/
  | start
  | center
  /-- The right or bottom edges. -/
  | stop
  deriving DecidableEq, Repr

namespace Alignment

/-- The name of the alignment. -/
def name : Alignment → String
  | start => "start"
  | center => "center"
  | stop => "end"

/-- The alignment that a keyword names on an axis, ASCII case aside. -/
def ofKeyword (axis : Axis) (keyword : String) : Option Alignment :=
  match axis, Text.asciiLower keyword.toList with
  | _, "c" | _, "center" => some center
  | .horizontal, "l" | .horizontal, "left" => some start
  | .vertical, "t" | .vertical, "top" => some start
  | .horizontal, "r" | .horizontal, "right" => some stop
  | .vertical, "b" | .vertical, "bottom" => some stop
  | _, _ => none

/-- The coordinate of a figure of extent `own` aligned with a target that starts at `first` and has
extent `extent`. -/
def position (alignment : Alignment) (first extent own : Float32) : Float32 :=
  match alignment with
  | start => first
  | center => first + extent / 2 - own / 2
  | stop => first + extent - own

end Alignment

/-- What a reference asks for. -/
structure Tie where
  /-- The position of the other figure in the list of figures. -/
  target : Nat
  alignment : Alignment
  deriving DecidableEq, Repr

namespace Tie

/-- The text before and after the last dot. -/
def splitLastDot? (text : List Char) : Option (List Char × List Char) :=
  match text.reverse.dropWhile (· ≠ '.') with
  | [] => none
  | _ :: before => some (before.reverse, (text.reverse.takeWhile (· ≠ '.')).reverse)

/-- The tie that a reference asks for. The identifier is what stands before the last dot. The
keyword is looked at before the identifier is looked up. -/
def ofReference (axis : Axis) (index : OrderedMap Nat) (reference : Reference) :
    Except Warning Tie :=
  match splitLastDot? reference.text.toList with
  | none | some ([], _) => .error (.malformedReference reference.text reference.block)
  | some (target, keyword) =>
    -- A keyword that does not fit is reported even if the target is unknown too.
    let keyword := String.ofList keyword
    let target := String.ofList target
    match Alignment.ofKeyword axis keyword, index.get? target with
    | none, _ => .error (.unsupportedKeyword axis keyword reference.block)
    | some _, none => .error (.unknownTarget target reference.block)
    | some alignment, some i => .ok ⟨i, alignment⟩

end Tie

namespace Forest

/-- The ties that the references on an axis ask for, one result for each figure that has one. -/
def ties (forest : Forest) (axis : Axis) (index : OrderedMap Nat) :
    List (Option (Except Warning Tie)) :=
  forest.map fun figure => (figure.reference axis).map (Tie.ofReference axis index)

/-- The tie of a figure, if it has a reference that can be followed. -/
def tie? (ties : List (Option (Except Warning Tie))) (i : Nat) : Option Tie :=
  match ties[i]? with
  | some (some (.ok tie)) => some tie
  | _ => none

/-- The warnings about references that cannot be followed. -/
def refusals (ties : List (Option (Except Warning Tie))) : List Warning :=
  ties.filterMap fun
    | some (.error w) => some w
    | _ => none

/-- What a figure depends on: the target of its tie, and its container. -/
def dependencies (forest : Forest) (ties : List (Option (Except Warning Tie))) (i : Nat) :
    List Nat :=
  ((tie? ties i).map Tie.target).toList ++
    (forest[i]?.bind Figure.parent).toList

/-- The offset by which a tie moves a figure, as the figures stand. -/
def offset (forest : Forest) (axis : Axis) (i : Nat) (tie : Tie) : Point :=
  match forest[i]?, forest[tie.target]? with
  | some own, some target =>
    let value := tie.alignment.position (target.box.start axis) (target.box.extent axis)
      (own.box.extent axis) - own.box.start axis
    match axis with
    | .horizontal => ⟨value, 0⟩
    | .vertical => ⟨0, value⟩
  | _, _ => .origin

/-- The forest with the tie of a figure fulfilled. -/
def align (axis : Axis) (ties : List (Option (Except Warning Tie))) (forest : Forest)
    (i : Nat) : Forest :=
  match tie? ties i with
  | none => forest
  | some tie => forest.move i (forest.offset axis i tie)

/-- The warning about a figure that depends on itself. -/
def cycleWarning? (forest : Forest) (axis : Axis) (i : Nat) : Option Warning := do
  let figure ← forest[i]?
  let reference ← figure.reference axis
  return .cyclicReference axis figure.id reference.block

/-- The forest with the ties on an axis fulfilled, and the warnings about references that are not
followed. -/
def settleAxis (index : OrderedMap Nat) (forest : Forest) (axis : Axis) :
    Forest × List Warning :=
  let ties := forest.ties axis index
  let next := forest.dependencies ties
  let n := forest.length
  -- Figures without a tie move only along with others, so they need no turn of their own.
  let tied := (Dependency.completion next n).filter fun i => (tie? ties i).isSome
  let (cyclic, free) := tied.partition (Dependency.onCycle next n)
  (free.foldl (align axis ties) forest,
    refusals ties ++
      (Dependency.classes next n cyclic).flatten.filterMap (forest.cycleWarning? axis))

/-- The forest with all ties fulfilled, on the horizontal axis first, and the warnings about
references that are not followed. -/
def settle (index : OrderedMap Nat) (forest : Forest) : Forest × List Warning :=
  let (forest, across) := forest.settleAxis index .horizontal
  let (forest, down) := forest.settleAxis index .vertical
  (forest, across ++ down)

end Forest

end BoxArrow
