/-!
# Dependencies

The vertices `0, …, n - 1` depend on each other as a function tells. A depth-first walk visits
all of them, lowest first and the dependencies of each in the given order, and completes each
after all its dependencies that are not on the way to it.

## Main definitions

* `Dependency.completion` — the vertices in the order in which the walk completes them
* `Dependency.reachable` — the vertices that a vertex depends on, and itself
* `Dependency.onCycle` — whether a vertex depends on itself
* `Dependency.classes` — vertices that depend on each other, as classes in order of completion
-/

namespace BoxArrow.Dependency

/-- The state of a walk: the vertices it has come to, and those it has completed, both with the
latest first. -/
structure Walk where
  seen : List Nat
  done : List Nat
  deriving DecidableEq, Repr

/-- The walk after a vertex and all that it leads to. A path has at most `steps` new vertices. -/
def visit (next : Nat → List Nat) : Nat → Nat → Walk → Walk
  | 0, _, walk => walk
  | steps + 1, v, walk =>
    if walk.seen.contains v then walk
    else
      -- Marked before its dependencies, the vertex ends the walk around a cycle through it.
      let walk := (next v).foldl (fun walk w => visit next steps w walk)
        { walk with seen := v :: walk.seen }
      { walk with done := v :: walk.done }

/-- The vertices in the order in which the walk completes them. -/
def completion (next : Nat → List Nat) (n : Nat) : List Nat :=
  ((List.range n).foldl (fun walk v => visit next n v walk) ⟨[], []⟩).done.reverse

/-- The vertices that a vertex depends on, directly or not, and itself. -/
def reachable (next : Nat → List Nat) (n v : Nat) : List Nat := (visit next n v ⟨[], []⟩).seen

/-- Whether a vertex depends on itself, directly or through others. -/
def onCycle (next : Nat → List Nat) (n v : Nat) : Bool :=
  (next v).any fun w => (reachable next n w).contains v

/-- Whether two vertices depend on each other. -/
def areMutual (next : Nat → List Nat) (n v w : Nat) : Bool :=
  (reachable next n v).contains w && (reachable next n w).contains v

/-- A list cut into classes of related elements, in the order of their first elements. -/
def classesBy (related : Nat → Nat → Bool) : List Nat → List (List Nat)
  | [] => []
  | v :: rest =>
    (v :: rest.filter (related v)) :: classesBy related (rest.filter fun w => !related v w)
termination_by vertices => vertices.length
decreasing_by
  simp only [List.length_unattach, List.length_cons]
  exact Nat.lt_succ_of_le (Nat.le_trans (List.length_filter_le ..) (by simp))

/-- Completed vertices as classes of vertices that depend on each other, each class where its last
vertex is completed and sorted in itself. -/
def classes (next : Nat → List Nat) (n : Nat) (completed : List Nat) : List (List Nat) :=
  (classesBy (areMutual next n) completed.reverse).reverse.map (·.mergeSort (· ≤ ·))

end BoxArrow.Dependency
