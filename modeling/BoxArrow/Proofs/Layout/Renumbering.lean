import BoxArrow.Proofs.Layout.Outcomes
import BoxArrow.Proofs.Relocation.Layout

/-!
# Forests with renumbered figures

A forest may hold the figures of another one in other positions, and more figures besides. As long
as the figures of the smaller forest refer to one another alike in both, a pass moves them alike,
for the equations of the pass read the same in both, and it gives the same warnings about them.

## Main definitions

* `Figure.apart` — a figure without its place in the forest, its place in the source being moved
* `Forest.Embeds` — a forest holds the figures of another one in renumbered positions
* `Forest.Renumbers` — the same, with no figures besides and all places in the source forgotten
* `Forest.FollowsAlike` — references are followed alike in both forests

## Main results

* `Forest.Embeds.isSolution` — solutions of the equations of a pass correspond
* `Forest.Embeds.settle` — all ties are fulfilled alike
* `Forest.Embeds.settleAxis_warnings` — with the same warnings, besides those about other figures
-/

namespace BoxArrow

open Relation

/-- The figure without its container and members, the spans of its references being moved. -/
def Figure.apart (f : Span → Span) (figure : Figure) : Figure :=
  { figure.relocate f with parent := none, children := [] }

/-- The figure without its container and members, and without the places of its references. -/
abbrev Figure.alone : Figure → Figure := apart Span.erase

theorem Figure.eq_of_apart_eq {f : Span → Span} {figure figure' : Figure}
    (h : figure.apart f = figure'.apart f) :
    figure.id = figure'.id ∧ figure.typeTag = figure'.typeTag ∧ figure.depth = figure'.depth ∧
      figure.box = figure'.box ∧ figure.record = figure'.record := by
  obtain ⟨hid, htype, -, -, hdepth, hbox, hrecord, -, -⟩ := Figure.mk.inj h
  exact ⟨hid, htype, hdepth, hbox, hrecord⟩

/-- A figure looked at apart keeps its references, their places in the source aside. -/
theorem Figure.reference_apart (f : Span → Span) (figure : Figure) (axis : Axis) :
    (figure.apart f).reference axis = (figure.reference axis).map (Reference.relocate f) := by
  rw [← Figure.reference_relocate]
  cases axis <;> rfl

/-- The tie with its target renumbered. -/
def Tie.renumber (σ : Nat → Nat) (tie : Tie) : Tie := { tie with target := σ tie.target }

/-- A reference whose target is found in the renumbered position is followed to it. -/
theorem Tie.ofReference_renumber {σ : Nat → Nat} {index index' : OrderedMap Nat} {axis : Axis}
    {reference : Reference}
    (h : ∀ target alignment, reference.Asks axis target alignment →
      index'.get? target = (index.get? target).map σ) :
    Tie.ofReference axis index' reference =
      (Tie.ofReference axis index reference).map (.renumber σ) := by
  unfold Tie.ofReference
  cases hsplit : Tie.splitLastDot? reference.text.toList with
  | none => rfl
  | some pair =>
    obtain ⟨_ | ⟨c, target⟩, keyword⟩ := pair
    · rfl
    · dsimp only
      cases hkeyword : Alignment.ofKeyword axis (String.ofList keyword) with
      | none => rfl
      | some alignment =>
        have hasks : reference.Asks axis (String.ofList (c :: target)) alignment := by
          rw [Tie.asks_iff, String.toList_ofList]
          exact ⟨keyword, hsplit, List.cons_ne_nil _ _, hkeyword⟩
        rw [h _ _ hasks]
        cases index.get? (String.ofList (c :: target)) <;> rfl

/-- Two lists, each with further elements behind it, have these behind both of them. -/
theorem append_append_perm {α : Type} (first further second others : List α) :
    ((first ++ further) ++ (second ++ others)).Perm ((first ++ second) ++ (further ++ others)) := by
  rw [List.append_assoc, List.append_assoc]
  refine List.Perm.append_left _ ?_
  rw [← List.append_assoc, ← List.append_assoc]
  exact List.perm_append_comm.append_right _

namespace Forest

/-- A forest holds the figures of another one in renumbered positions, and other figures in the
extra positions. The places of references in the source are moved. -/
structure Embeds (f : Span → Span) (σ : Nat → Nat) (extra : List Nat) (forest forest' : Forest) :
    Prop where
  exists_figure : ∀ i figure, forest[i]? = some figure → ∃ figure', forest'[σ i]? = some figure' ∧
    figure'.apart f = figure.apart f ∧ figure'.parent = figure.parent.map σ
  perm_range : ((List.range forest.length).map σ ++ extra).Perm (List.range forest'.length)

/-- The figures of one forest are those of another one, in renumbered positions. -/
abbrev Renumbers (σ : Nat → Nat) (forest forest' : Forest) : Prop :=
  Embeds Span.erase σ [] forest forest'

/-- The references of a forest lead to the same figures with two indices, one of them renumbered, or
are refused with both. -/
def FollowsAlike (σ : Nat → Nat) (forest : Forest) (index index' : OrderedMap Nat) : Prop :=
  ∀ axis i reference, forest.referenceOf axis i = some reference →
    Tie.ofReference axis index' reference = (Tie.ofReference axis index reference).map (.renumber σ)

/-- References are followed alike with an index that finds the same figures, renumbered. -/
theorem FollowsAlike.of_get? {σ : Nat → Nat} {index index' : OrderedMap Nat}
    (h : ∀ id, index'.get? id = (index.get? id).map σ) (forest : Forest) :
    FollowsAlike σ forest index index' :=
  fun _ _ _ _ => Tie.ofReference_renumber fun target _ _ => h target

theorem FollowsAlike.withBoxes {σ : Nat → Nat} {forest : Forest} {index index' : OrderedMap Nat}
    (h : FollowsAlike σ forest index index') (boxes : Nat → Box) :
    FollowsAlike σ (forest.withBoxes boxes) index index' := by
  intro axis i reference hreference
  refine h axis i reference ?_
  unfold referenceOf at hreference ⊢
  rw [getElem?_withBoxes] at hreference
  obtain ⟨_, hfigure, hreference⟩ := Option.bind_eq_some_iff.1 hreference
  obtain ⟨figure, hi, rfl⟩ := Option.map_eq_some_iff.1 hfigure
  rw [hi, Option.bind_some]
  cases axis <;> exact hreference

/-- Offsets of renumbered figures, read in the positions before. -/
def pullback (forest : Forest) (σ : Nat → Nat) (offsets' : Nat → Option Point) (i : Nat) :
    Option Point :=
  if i < forest.length then offsets' (σ i) else none

theorem pullback_of_lt {forest : Forest} {σ : Nat → Nat} {offsets' : Nat → Option Point} {i : Nat}
    (hi : i < forest.length) : forest.pullback σ offsets' i = offsets' (σ i) :=
  if_pos hi

namespace Embeds

variable {f : Span → Span} {σ : Nat → Nat} {extra : List Nat} {forest forest' : Forest}
  {i j m : Nat}

section Positions

variable (h : Embeds f σ extra forest forest')
include h

theorem injOn (hi : i < forest.length) (hj : j < forest.length) (heq : σ i = σ j) : i = j :=
  List.inj_on_of_nodup_map (h.perm_range.nodup_iff.2 List.nodup_range).of_append_left
    (List.mem_range.2 hi) (List.mem_range.2 hj) heq

theorem lt_length (hi : i < forest.length) : σ i < forest'.length := by
  rw [← List.mem_range, ← h.perm_range.mem_iff]
  exact List.mem_append_left _ (List.mem_map_of_mem (List.mem_range.2 hi))

theorem figure_of_lt (hi : i < forest.length) :
    ∃ figure figure', forest[i]? = some figure ∧ forest'[σ i]? = some figure' ∧
      figure'.apart f = figure.apart f ∧ figure'.parent = figure.parent.map σ := by
  have hfigure := List.getElem?_eq_getElem hi
  obtain ⟨figure', hfigure', hapart, hparent⟩ := h.exists_figure i _ hfigure
  exact ⟨_, figure', hfigure, hfigure', hapart, hparent⟩

theorem parentOf (hi : i < forest.length) :
    forest'.parentOf (σ i) = (forest.parentOf i).map σ := by
  obtain ⟨figure, figure', hfigure, hfigure', -, hparent⟩ := h.figure_of_lt hi
  rw [Forest.parentOf, Forest.parentOf, hfigure, hfigure']
  exact hparent

theorem boxOf (hi : i < forest.length) : forest'.boxOf (σ i) = forest.boxOf i := by
  obtain ⟨figure, figure', hfigure, hfigure', hapart, -⟩ := h.figure_of_lt hi
  obtain ⟨-, -, -, hbox, -⟩ := Figure.eq_of_apart_eq hapart
  rw [Forest.boxOf, Forest.boxOf, hfigure, hfigure']
  exact hbox

theorem containers (hnested : forest.IsNested) (hnested' : forest'.IsNested)
    (hi : i < forest.length) : forest'.containers (σ i) = (forest.containers i).map σ := by
  induction i using hnested.induction_on with
  | top i hp =>
    have hp' : forest'.parentOf (σ i) = none := by rw [h.parentOf hi, hp, Option.map_none]
    rw [containers_of_none hp, containers_of_none hp', List.map_nil]
  | inner i p hp ih =>
    have hp' : forest'.parentOf (σ i) = some (σ p) := by rw [h.parentOf hi, hp, Option.map_some]
    have hlt := Nat.lt_trans (hnested.parent_lt i p hp) hi
    rw [containers_of_some hnested hp, containers_of_some hnested' hp', ih hlt, List.map_append]
    rfl

/-- With other boxes that correspond, the figures still do. -/
theorem withBoxes {boxes boxes' : Nat → Box}
    (hboxes : ∀ i < forest.length, boxes i = boxes' (σ i)) :
    Embeds f σ extra (forest.withBoxes boxes) (forest'.withBoxes boxes') where
  exists_figure i figure hfigure := by
    rw [getElem?_withBoxes, Option.map_eq_some_iff] at hfigure
    obtain ⟨old, hold, rfl⟩ := hfigure
    obtain ⟨old', hold', hapart, hparent⟩ := h.exists_figure i old hold
    refine ⟨{ old' with box := boxes' (σ i) }, ?_, ?_, hparent⟩
    · rw [getElem?_withBoxes, hold']
      rfl
    · have hbox := hboxes i (List.getElem?_eq_some_iff.1 hold).1
      change { old'.apart f with box := boxes' (σ i) } = { old.apart f with box := boxes i }
      rw [hapart, hbox]
  perm_range := by
    rw [length_withBoxes, length_withBoxes]
    exact h.perm_range

end Positions

section Requests

variable {index index' : OrderedMap Nat} {axis : Axis} {tie : Tie}
  (h : Embeds f σ extra forest forest') (hfollows : FollowsAlike σ forest index index')
include h hfollows

/-- The ties ask for the same, in the renumbered positions. -/
theorem requestOf (axis : Axis) (hi : i < forest.length) :
    (forest'.requestOf axis index' (σ i)).map (Except.mapError (Warning.relocate f)) =
      (forest.requestOf axis index i).map fun request =>
        (request.map (Tie.renumber σ)).mapError (Warning.relocate f) := by
  obtain ⟨figure, figure', hfigure, hfigure', hapart, -⟩ := h.figure_of_lt hi
  have hreference : (figure'.reference axis).map (Reference.relocate f) =
      (figure.reference axis).map (Reference.relocate f) := by
    rw [← Figure.reference_apart, ← Figure.reference_apart, hapart]
  have hmoved : Except.mapError (Warning.relocate f) ∘ Tie.ofReference axis index' =
      Tie.ofReference axis index' ∘ Reference.relocate f :=
    funext fun reference => (Tie.ofReference_relocate f axis index' reference).symm
  unfold Forest.requestOf
  rw [hfigure, hfigure', Option.bind_some, Option.bind_some, Option.map_map, Option.map_map,
    hmoved, ← Option.map_map, hreference, Option.map_map, ← hmoved]
  refine Option.map_congr fun reference hmem => ?_
  have hreferenceOf : forest.referenceOf axis i = some reference := by
    rw [referenceOf, hfigure]
    exact hmem
  exact congrArg (Except.mapError (Warning.relocate f)) (hfollows axis i reference hreferenceOf)

theorem tie? (axis : Axis) (hi : i < forest.length) :
    Forest.tie? (forest'.ties axis index') (σ i) =
      (Forest.tie? (forest.ties axis index) i).map (Tie.renumber σ) := by
  -- What a tie asks for, if it can be followed, forgets the warning otherwise given.
  have hrequest := congrArg (·.bind Except.toOption) (h.requestOf hfollows axis hi)
  have hforget : ∀ request : Except Warning Tie,
      (request.mapError (Warning.relocate f)).toOption = request.toOption := by
    intro request
    cases request <;> rfl
  have hrenumber : ∀ request : Except Warning Tie,
      (request.map (Tie.renumber σ)).toOption = request.toOption.map (Tie.renumber σ) := by
    intro request
    cases request <;> rfl
  rw [tie?_ties, tie?_ties]
  simp only [Option.bind_map, Function.comp_def, hforget, hrenumber] at hrequest
  rw [hrequest]
  cases forest.requestOf axis index i <;> rfl

variable (hindex : forest.Indexes index) (hindex' : forest'.Indexes index')
include hindex hindex'

/-- Figures that correspond ask for the same ties, renumbered. -/
theorem asksFor_iff {tie' : Tie} (hi : i < forest.length) :
    forest'.AsksFor axis (σ i) tie' ↔
      ∃ tie, forest.AsksFor axis i tie ∧ tie.renumber σ = tie' := by
  rw [← hindex'.tie?_eq_some_iff, h.tie? hfollows axis hi, Option.map_eq_some_iff]
  simp only [hindex.tie?_eq_some_iff]

theorem needs_iff (hi : i < forest.length) :
    forest'.Needs axis (σ i) m ↔ ∃ j, forest.Needs axis i j ∧ σ j = m := by
  unfold Needs
  rw [refersTo_iff, h.parentOf hi]
  constructor
  · rintro (⟨tie', htie', rfl⟩ | hparent)
    · obtain ⟨tie, htie, rfl⟩ := (h.asksFor_iff hfollows hindex hindex' hi).1 htie'
      exact ⟨_, .inl (refersTo_iff.2 ⟨tie, htie, rfl⟩), rfl⟩
    · obtain ⟨p, hp, rfl⟩ := Option.map_eq_some_iff.1 hparent
      exact ⟨p, .inr hp, rfl⟩
  · rintro ⟨j, hj | hparent, rfl⟩
    · obtain ⟨tie, htie, rfl⟩ := refersTo_iff.1 hj
      have htie' := (h.asksFor_iff hfollows hindex hindex' hi).2 ⟨tie, htie, rfl⟩
      exact .inl ⟨_, htie', rfl⟩
    · exact .inr (by rw [hparent, Option.map_some])

variable (hnested : forest.IsNested)
include hnested

theorem transGen_iff (hi : i < forest.length) :
    TransGen (forest'.Needs axis) (σ i) m ↔ ∃ j, TransGen (forest.Needs axis) i j ∧ σ j = m := by
  have hstep {i m : Nat} (hi : i < forest.length) :
      forest'.Needs axis (σ i) m ↔ ∃ j, forest.Needs axis i j ∧ σ j = m :=
    h.needs_iff hfollows hindex hindex' hi
  constructor
  · intro hm
    induction hm with
    | single hm =>
      obtain ⟨j, hj, rfl⟩ := (hstep hi).1 hm
      exact ⟨j, .single hj, rfl⟩
    | tail _ hm ih =>
      obtain ⟨j, hj, rfl⟩ := ih
      obtain ⟨k, hk, rfl⟩ := (hstep (lt_length_of_transGen hnested hj)).1 hm
      exact ⟨k, hj.tail hk, rfl⟩
  · rintro ⟨j, hj, rfl⟩
    induction hj with
    | single hj => exact .single ((hstep hi).2 ⟨_, hj, rfl⟩)
    | tail hj hk ih =>
      -- Every figure on the way is one of the forest, so each step is one in the other forest.
      exact ih.tail ((hstep (lt_length_of_transGen hnested hj)).2 ⟨_, hk, rfl⟩)

/-- A figure needs itself in both positions or in none. -/
theorem transGen_self_iff (hi : i < forest.length) :
    TransGen (forest'.Needs axis) (σ i) (σ i) ↔ TransGen (forest.Needs axis) i i := by
  rw [h.transGen_iff hfollows hindex hindex' hnested hi]
  constructor
  · rintro ⟨j, hj, heq⟩
    exact h.injOn (lt_length_of_transGen hnested hj) hi heq ▸ hj
  · exact fun hi => ⟨i, hi, rfl⟩

variable (hnested' : forest'.IsNested) {offsets' : Nat → Option Point}
include hnested'

omit hfollows hindex hindex' in
theorem carry_containers (hi : i < forest.length) (box : Box) :
    carry offsets' (forest'.containers (σ i)) box =
      carry (forest.pullback σ offsets') (forest.containers i)
        box := by
  rw [h.containers hnested hnested' hi]
  unfold carry
  rw [List.foldl_map]
  -- Containers are figures of the forest, where the offsets are read through the renumbering.
  refine List.foldl_ext _ _ _ fun box c hc => ?_
  rw [pullback_of_lt (hnested.lt_length_of_mem_containers hc)]

omit hfollows hindex hindex' in
theorem carriedBox (hi : i < forest.length) :
    forest'.carriedBox offsets' (σ i) =
      forest.carriedBox (forest.pullback σ offsets') i := by
  rw [Forest.carriedBox, Forest.carriedBox, h.carry_containers hnested hnested' hi, h.boxOf hi]

omit hfollows hindex hindex' in
theorem finalBox (hi : i < forest.length) :
    forest'.finalBox offsets' (σ i) =
      forest.finalBox (forest.pullback σ offsets') i := by
  rw [Forest.finalBox, Forest.finalBox, h.carriedBox hnested hnested' hi, pullback_of_lt hi]

/-- Solutions of the equations of a pass correspond. -/
theorem isSolution (hsolution : forest'.IsSolution axis offsets') :
    forest.IsSolution axis (forest.pullback σ offsets') where
  tied i tie htie hacyclic := by
    have hi := htie.lt_length
    have htie' := (h.asksFor_iff hfollows hindex hindex' hi).2 ⟨tie, htie, rfl⟩
    have hacyclic' := mt (h.transGen_self_iff hfollows hindex hindex' hnested hi).1 hacyclic
    -- What the tie asks for is read from boxes that correspond.
    rw [pullback_of_lt hi, hsolution.tied (σ i) _ htie' hacyclic']
    refine congrArg some ?_
    unfold requestedOffset
    change Point.along axis
      (tie.alignment.position ((forest'.finalBox offsets' (σ tie.target)).start axis)
        ((forest'.finalBox offsets' (σ tie.target)).extent axis) _ - _) = _
    rw [h.finalBox hnested hnested' htie.target_lt_length, h.carriedBox hnested hnested' hi]
  untied i hnone := by
    by_cases hi : i < forest.length
    · rw [pullback_of_lt hi]
      refine hsolution.untied (σ i) fun tie' htie' => ?_
      obtain ⟨tie, htie, -⟩ := (h.asksFor_iff hfollows hindex hindex' hi).1 htie'
      exact hnone tie htie
    · exact if_neg hi
  cyclic i hcyclic := by
    have hi := lt_length_of_transGen hnested hcyclic
    have hcyclic' := (h.transGen_self_iff hfollows hindex hindex' hnested hi).2 hcyclic
    rw [pullback_of_lt hi]
    exact hsolution.cyclic (σ i) hcyclic'

/-- A pass moves the figures alike. -/
theorem settleAxis (axis : Axis) :
    ∃ boxes boxes', (forest.settleAxis index axis).1 = forest.withBoxes boxes ∧
      (forest'.settleAxis index' axis).1 = forest'.withBoxes boxes' ∧
        Embeds f σ extra (forest.withBoxes boxes) (forest'.withBoxes boxes') := by
  obtain ⟨offsets, hsolution, hsettle⟩ := exists_isSolution hnested hindex axis
  obtain ⟨offsets', hsolution', hsettle'⟩ := exists_isSolution hnested' hindex' axis
  have heq := hsolution.unique hnested hindex
    (h.isSolution hfollows hindex hindex' hnested hnested' hsolution')
  -- The solution in the one forest, read in the other one, is the only solution there.
  refine ⟨_, _, hsettle, hsettle', h.withBoxes fun i hi => ?_⟩
  rw [h.finalBox hnested hnested' hi, heq]

end Requests

end Embeds

/-! ### Warnings of a pass -/

variable {forest forest' : Forest} {axis : Axis} {index index' : OrderedMap Nat}

namespace Embeds

variable {f : Span → Span} {σ : Nat → Nat} {extra : List Nat} {i : Nat}

/-- Warnings about figures that correspond are the same. -/
theorem filterMap_range (h : Embeds f σ extra forest forest') {w w' : Nat → Option Warning}
    (hw : ∀ i < forest.length,
      (w' (σ i)).map (Warning.relocate f) = (w i).map (Warning.relocate f)) :
    (((List.range forest'.length).filterMap w').map (Warning.relocate f)).Perm
      (((List.range forest.length).filterMap w ++ extra.filterMap w').map
        (Warning.relocate f)) := by
  rw [List.map_append, List.map_filterMap, List.map_filterMap, List.map_filterMap]
  refine (h.perm_range.symm.filterMap _).trans (.of_eq ?_)
  rw [List.filterMap_append, List.filterMap_map]
  exact congrArg (· ++ _) (List.filterMap_congr fun i hi => hw i (List.mem_range.1 hi))

theorem refusalOf (h : Embeds f σ extra forest forest')
    (hfollows : FollowsAlike σ forest index index') (axis : Axis) (hi : i < forest.length) :
    (forest'.refusalOf axis index' (σ i)).map (Warning.relocate f) =
      (forest.refusalOf axis index i).map (Warning.relocate f) := by
  have hrequest := h.requestOf hfollows axis hi
  unfold Forest.refusalOf
  cases hold : forest.requestOf axis index i with
  | none =>
    rw [hold, Option.map_none, Option.map_eq_none_iff] at hrequest
    rw [hrequest]
  | some request =>
    rw [hold, Option.map_some, Option.map_eq_some_iff] at hrequest
    obtain ⟨request', hnew, heq⟩ := hrequest
    rw [hnew]
    -- A request that is refused in one forest is refused in the other.
    cases request with
    | error w =>
      cases request' with
      | error w' => exact congrArg some (Except.error.inj heq)
      | ok tie => cases heq
    | ok tie =>
      cases request' with
      | error w' => cases heq
      | ok tie' => rfl

theorem cycleWarning? (h : Embeds f σ extra forest forest') (axis : Axis)
    (hi : i < forest.length) :
    (forest'.cycleWarning? axis (σ i)).map (Warning.relocate f) =
      (forest.cycleWarning? axis i).map (Warning.relocate f) := by
  obtain ⟨figure, figure', hfigure, hfigure', hapart, -⟩ := h.figure_of_lt hi
  -- The warning shows the identifier and the reference of the figure, and nothing else of it.
  have hwarning : ∀ figure : Figure, ((figure.reference axis).map fun reference =>
      (Warning.cyclicReference axis figure.id reference.block).relocate f) =
        ((figure.apart f).reference axis).map fun reference =>
          .cyclicReference axis (figure.apart f).id reference.block := by
    intro figure
    rw [Figure.reference_apart, Option.map_map]
    rfl
  have hat : ∀ (forest : Forest) (i : Nat) (figure : Figure), forest[i]? = some figure →
      (forest.cycleWarning? axis i).map (Warning.relocate f) =
        (figure.reference axis).map fun reference =>
          (Warning.cyclicReference axis figure.id reference.block).relocate f := by
    intro forest i figure hi
    unfold Forest.cycleWarning?
    rw [hi]
    cases hreference : figure.reference axis <;> simp [hreference]
  rw [hat _ _ _ hfigure, hat _ _ _ hfigure', hwarning, hwarning, hapart]

section Settle

variable (h : Embeds f σ extra forest forest') (hfollows : FollowsAlike σ forest index index')
  (hnested : forest.IsNested) (hnested' : forest'.IsNested) (hindex : forest.Indexes index)
  (hindex' : forest'.Indexes index')
include h hfollows hnested hnested' hindex hindex'

/-- The same becomes of the references of figures that correspond. -/
theorem outcomeOf (axis : Axis) (hi : i < forest.length) :
    (forest'.outcomeOf axis index' (σ i)).map (Warning.relocate f) =
      (forest.outcomeOf axis index i).map (Warning.relocate f) := by
  -- Figures that correspond are on cycles together, whichever cycle is found first.
  have hcycle : Dependency.onCycle (forest'.dependencies (forest'.ties axis index'))
        forest'.length (σ i) =
      Dependency.onCycle (forest.dependencies (forest.ties axis index)) forest.length i := by
    rw [Bool.eq_iff_iff, onCycle_dependencies_iff hnested' hindex',
      onCycle_dependencies_iff hnested hindex,
      h.transGen_self_iff hfollows hindex hindex' hnested hi]
  unfold Forest.outcomeOf cycleOf
  rw [Option.map_or, Option.map_or, h.refusalOf hfollows axis hi, hcycle, h.tie? hfollows axis hi,
    Option.isSome_map, apply_ite (Option.map _), apply_ite (Option.map _), h.cycleWarning? axis hi]

/-- A pass gives the same warnings, besides those about the other figures. -/
theorem settleAxis_warnings (axis : Axis) :
    ((forest'.settleAxis index' axis).2.map (Warning.relocate f)).Perm
      (((forest.settleAxis index axis).2 ++
        extra.filterMap (forest'.outcomeOf axis index')).map (Warning.relocate f)) := by
  refine ((settleAxis_snd_perm_outcomeOf hnested' hindex' axis).map _).trans
    (.trans (h.filterMap_range fun i hi => ?_)
      (((settleAxis_snd_perm_outcomeOf hnested hindex axis).symm.append_right _).map _))
  exact h.outcomeOf hfollows hnested hnested' hindex hindex' axis hi

/-- All ties are fulfilled alike, with the same warnings besides those about the other figures. -/
theorem settle :
    ∃ boxes boxes' found, (forest.settle index).1 = forest.withBoxes boxes ∧
      (forest'.settle index').1 = forest'.withBoxes boxes' ∧
        Embeds f σ extra (forest.withBoxes boxes) (forest'.withBoxes boxes') ∧
          ((forest'.settle index').2.map (Warning.relocate f)).Perm
            (((forest.settle index).2 ++ found).map (Warning.relocate f)) ∧
          ∀ w ∈ found, ∃ i ∈ extra, ∃ figure axis reference, forest'[i]? = some figure ∧
            figure.reference axis = some reference ∧
            (Tie.ofReference axis index' reference = .error w ∨
              w = .cyclicReference axis figure.id reference.block) := by
  -- The forests that the first pass leaves correspond, so the second pass treats them alike.
  obtain ⟨across, across', hacross, hacross', hembeds⟩ :=
    h.settleAxis hfollows hindex hindex' hnested hnested' .horizontal
  have hfollowsAcross := hfollows.withBoxes across
  have hindexAcross : (forest.withBoxes across).Indexes index := hindex.withBoxes across
  have hindexAcross' : (forest'.withBoxes across').Indexes index' := hindex'.withBoxes across'
  obtain ⟨down, down', hdown, hdown', hembeds'⟩ :=
    hembeds.settleAxis hfollowsAcross hindexAcross hindexAcross' (hnested.withBoxes _)
      (hnested'.withBoxes _) .vertical
  rw [withBoxes_withBoxes, withBoxes_withBoxes] at hembeds'
  have hwarnings := h.settleAxis_warnings hfollows hnested hnested' hindex hindex' .horizontal
  have hwarnings' := hembeds.settleAxis_warnings hfollowsAcross (hnested.withBoxes _)
    (hnested'.withBoxes _) hindexAcross hindexAcross' .vertical
  refine ⟨down, down', extra.filterMap (forest'.outcomeOf .horizontal index') ++
    extra.filterMap ((forest'.withBoxes across').outcomeOf .vertical index'), ?_⟩
  unfold Forest.settle
  dsimp only
  rw [hacross, hacross', hdown, hdown', withBoxes_withBoxes, withBoxes_withBoxes]
  refine ⟨rfl, rfl, hembeds', ?_, ?_⟩
  · -- The warnings about the other figures go behind those about the figures that correspond.
    simp only [List.map_append] at hwarnings hwarnings' ⊢
    exact (hwarnings.append hwarnings').trans (append_append_perm _ _ _ _)
  · intro w hw
    rcases List.mem_append.1 hw with hw | hw
    · obtain ⟨i, hi, houtcome⟩ := List.mem_filterMap.1 hw
      obtain ⟨figure, reference, hfigure, hfound⟩ := exists_of_outcomeOf houtcome
      exact ⟨i, hi, figure, _, reference, hfigure, hfound⟩
    · obtain ⟨i, hi, houtcome⟩ := List.mem_filterMap.1 hw
      obtain ⟨moved, reference, hmoved, hreference, hfound⟩ := exists_of_outcomeOf houtcome
      rw [getElem?_withBoxes, Option.map_eq_some_iff] at hmoved
      obtain ⟨figure, hfigure, rfl⟩ := hmoved
      exact ⟨i, hi, figure, .vertical, reference, hfigure, hreference, hfound⟩

end Settle

end Embeds

end Forest

end BoxArrow
