import BoxArrow.Proofs.Document.Concatenation
import BoxArrow.Proofs.Layout.Forest

/-!
# Forests of moved declarations

Where a declaration stands in the source decides neither where its figure is placed nor how its
ties are fulfilled. Moving the spans of declarations moves the spans that their figures and the
warnings about them carry, and changes nothing else.

## Main definitions

* `Declaration.moved` — one declaration with its spans moved, and all that is inside it
* `Forest.relocate` — figures and warnings with their spans moved

## Main results

* `Forest.place_relocate` — moved declarations are placed alike
* `Forest.settle_relocate` — and their ties are fulfilled alike
-/

namespace BoxArrow

variable (f : Span → Span)

/-- The declaration with its spans, and those of all that is inside it, moved. -/
def Declaration.moved (d : Declaration) : Declaration :=
  { d with
    span := f d.span
    states := d.states.mapValues (.relocate f)
    children := relocate f d.children }

theorem Declaration.relocate_cons (d : Declaration) (declarations : List Declaration) :
    relocate f (d :: declarations) = d.moved f :: relocate f declarations := by
  cases d
  rw [relocate]
  rfl

namespace Figure

theorem ownState_moved (d : Declaration) :
    (d.moved f).ownState = d.ownState.map (.relocate f) :=
  OrderedMap.get?_mapValues _ d.states d.name

theorem otherState_moved (d : Declaration) :
    otherState (d.moved f) = (otherState d).map (.relocate f) := by
  have htagged : (d.moved f).taggedState = d.taggedState.map (.relocate f) := by
    change d.stateTag.bind (d.states.mapValues _).get? = (d.stateTag.bind d.states.get?).map _
    cases d.stateTag with
    | none => rfl
    | some tag => exact OrderedMap.get?_mapValues _ d.states tag
  change (if d.stateTag = some d.name then none else (d.moved f).taggedState) = _
  rw [htagged, otherState, apply_ite (Option.map _)]
  rfl

/-- A declaration in another place has the same figure, its references being in other places. -/
theorem ofDeclaration_moved (catalog : Catalog) (parent : Option Nat) (d : Declaration) :
    ofDeclaration catalog parent (d.moved f) =
      ((ofDeclaration catalog parent d).1.relocate f,
        (ofDeclaration catalog parent d).2.map (.relocate f)) := by
  rw [ofDeclaration_relocate, ← ownState_moved, ← otherState_moved]
  rfl

end Figure

namespace Forest

/-- The figures and the warnings with their spans moved. -/
def relocate (result : Forest × List Warning) : Forest × List Warning :=
  (result.1.map (.relocate f), result.2.map (.relocate f))

@[simp] theorem relocate_fst (result : Forest × List Warning) :
    (relocate f result).1 = result.1.map (.relocate f) := rfl

@[simp] theorem relocate_snd (result : Forest × List Warning) :
    (relocate f result).2 = result.2.map (.relocate f) := rfl

/-! ### Figures are placed alike -/

theorem modify_relocate (forest : Forest) (i : Nat) {g : Figure → Figure}
    (hg : ∀ figure, g (figure.relocate f) = (g figure).relocate f) :
    List.modify (forest.map (.relocate f)) i g = (forest.modify i g).map (.relocate f) := by
  apply List.ext_getElem?
  intro j
  rw [List.getElem?_modify, List.getElem?_map, List.getElem?_map, List.getElem?_modify]
  by_cases hij : i = j
  · cases forest[j]? <;> simp [hij, hg]
  · simp [hij]

theorem push_relocate (forest : Forest) (figure : Figure) :
    push (forest.map (.relocate f)) (figure.relocate f) =
      (forest.push figure).map (.relocate f) := by
  have hparent : (figure.relocate f).parent = figure.parent := rfl
  unfold push
  rw [hparent]
  cases figure.parent with
  | none =>
    dsimp only
    rw [List.map_append]
    rfl
  | some p =>
    dsimp only
    rw [modify_relocate f, List.map_append, List.getElem?_map, Option.map_map, List.length_map]
    · rfl
    · exact fun _ => rfl

theorem add_relocate (catalog : Catalog) (parent : Option Nat) (d : Declaration)
    (result : Forest × List Warning) :
    add catalog parent (d.moved f) (relocate f result) =
      relocate f (add catalog parent d result) := by
  unfold add
  rw [Figure.ofDeclaration_moved]
  exact Prod.ext (push_relocate f _ _) List.map_append.symm

/-- Moved declarations are placed alike. -/
theorem place_relocate (catalog : Catalog) (declarations : List Declaration) :
    ∀ (parent : Option Nat) (result : Forest × List Warning),
      place catalog parent (Declaration.relocate f declarations) (relocate f result) =
        relocate f (place catalog parent declarations result) := by
  induction declarations using Declaration.forest_induction with
  | nil =>
    intro parent result
    rw [Declaration.relocate, place, place]
  | cons d declarations ihchildren ih =>
    intro parent result
    -- What is inside `d` is placed behind its figure, and the other declarations behind that.
    have hchildren := ihchildren (some result.1.length) (add catalog parent d result)
    rw [Declaration.relocate_cons, place_cons, place_cons, add_relocate, relocate_fst,
      List.length_map, ← ih, ← hchildren]
    rfl

/-! ### Ties are fulfilled alike -/

variable (forest : Forest) (axis : Axis) (index : OrderedMap Nat)

theorem lastIndex_relocate : lastIndex (forest.map (.relocate f)) = forest.lastIndex := by
  unfold lastIndex
  rw [List.map_map]
  rfl

theorem ties_relocate :
    ties (forest.map (.relocate f)) axis index =
      (forest.ties axis index).map (Option.map (Except.mapError (.relocate f))) := by
  rw [ties, ties, List.map_map, List.map_map]
  refine List.map_congr_left fun figure _ => ?_
  change ((figure.relocate f).reference axis).map _ = ((figure.reference axis).map _).map _
  rw [Figure.reference_relocate, Option.map_map, Option.map_map]
  exact congrArg (Option.map · _) (funext (Tie.ofReference_relocate f axis index))

variable (requests : List (Option (Except Warning Tie)))

theorem tie?_relocate (i : Nat) :
    tie? (requests.map (Option.map (Except.mapError (.relocate f)))) i = tie? requests i := by
  unfold tie?
  rw [List.getElem?_map]
  rcases requests[i]? with _ | _ | _ | _ <;> rfl

theorem refusals_relocate :
    refusals (requests.map (Option.map (Except.mapError (.relocate f)))) =
      (refusals requests).map (.relocate f) := by
  rw [refusals, refusals, List.filterMap_map, List.map_filterMap]
  refine List.filterMap_congr fun request _ => ?_
  rcases request with _ | _ | _ <;> rfl

theorem dependencies_relocate :
    dependencies (forest.map (.relocate f))
        (requests.map (Option.map (Except.mapError (.relocate f)))) =
      forest.dependencies requests := by
  funext i
  rw [dependencies, dependencies, tie?_relocate, List.getElem?_map, Option.bind_map]
  rfl

theorem offset_relocate (i : Nat) (tie : Tie) :
    offset (forest.map (.relocate f)) axis i tie = forest.offset axis i tie := by
  unfold offset
  rw [List.getElem?_map, List.getElem?_map]
  cases forest[i]? <;> cases forest[tie.target]? <;> rfl

theorem subtree_relocate (levels i : Nat) :
    subtree (forest.map (.relocate f)) levels i = forest.subtree levels i := by
  induction levels generalizing i with
  | zero => rfl
  | succ levels ih =>
    rw [subtree, subtree, List.getElem?_map, Option.map_map, funext ih]
    rfl

theorem move_relocate (i : Nat) (offset : Point) :
    move (forest.map (.relocate f)) i offset = (forest.move i offset).map (.relocate f) := by
  rw [move, move, subtree_relocate, List.length_map]
  apply List.foldl_hom (List.map (Figure.relocate f))
  exact fun forest j => modify_relocate f forest j fun _ => rfl

theorem align_relocate (i : Nat) :
    align axis (requests.map (Option.map (Except.mapError (.relocate f))))
        (forest.map (.relocate f)) i =
      (align axis requests forest i).map (.relocate f) := by
  unfold align
  rw [tie?_relocate]
  cases tie? requests i with
  | none => rfl
  | some tie =>
    dsimp only
    rw [offset_relocate, move_relocate]

theorem cycleWarning?_relocate (i : Nat) :
    cycleWarning? (forest.map (.relocate f)) axis i =
      (forest.cycleWarning? axis i).map (.relocate f) := by
  unfold cycleWarning?
  rw [List.getElem?_map]
  cases forest[i]? with
  | none => rfl
  | some figure =>
    change (((figure.relocate f).reference axis).bind _) = ((figure.reference axis).bind _).map _
    rw [Figure.reference_relocate]
    cases figure.reference axis <;> rfl

theorem settleAxis_relocate :
    settleAxis index (forest.map (.relocate f)) axis =
      relocate f (settleAxis index forest axis) := by
  unfold settleAxis
  simp only [ties_relocate, dependencies_relocate, tie?_relocate, refusals_relocate,
    List.length_map]
  refine Prod.ext ?_ ?_
  · apply List.foldl_hom (List.map (Figure.relocate f))
    exact fun forest i => align_relocate f forest axis _ i
  · change _ = List.map _ (_ ++ _)
    rw [List.map_append, List.map_filterMap]
    exact congrArg (_ ++ List.filterMap · _) (funext (cycleWarning?_relocate f forest axis))

/-- The ties of moved declarations are fulfilled alike. -/
theorem settle_relocate :
    settle index (forest.map (.relocate f)) = relocate f (settle index forest) := by
  unfold settle
  simp only [settleAxis_relocate, relocate_fst, relocate_snd]
  rw [relocate, List.map_append]

end Forest

end BoxArrow
