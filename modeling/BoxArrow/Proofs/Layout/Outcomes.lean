import BoxArrow.Proofs.Layout.Settling

/-!
# What becomes of the references

Placing leaves a reference on a figure, and a pass over the axis finds it there. One thing becomes
of it. It is reported if it asks for nothing on the axis, or else if its target is not declared, or
else if the figure depends on itself, and it is applied otherwise. A pass gives no other warnings,
and a figure whose reference is not applied only goes along with its containers.

## Main definitions

* `Forest.Verdict` — what becomes of a reference
* `Forest.IsAccount` — which warnings and which offsets a pass gives

## Main results

* `Forest.settleAxis_snd_perm` — the warnings of a pass, by figure
* `Forest.verdict_iff` — one thing becomes of a reference, and its outcome tells which
* `Forest.settleAxis_place_outcomes` — a pass does with all references as their verdicts say
-/

namespace BoxArrow.Forest

open Relation

/-- What a tie asks of a figure, if it has one. -/
def requestOf (forest : Forest) (axis : Axis) (index : OrderedMap Nat) (i : Nat) :
    Option (Except Warning Tie) :=
  forest[i]?.bind fun figure => (figure.reference axis).map (Tie.ofReference axis index)

/-- The warning about a reference that cannot be followed. -/
def refusalOf (forest : Forest) (axis : Axis) (index : OrderedMap Nat) (i : Nat) :
    Option Warning :=
  (forest.requestOf axis index i).bind fun request =>
    match request with
    | .error w => some w
    | .ok _ => none

/-- The warning about a tied figure that depends on itself. -/
def cycleOf (forest : Forest) (axis : Axis) (index : OrderedMap Nat) (i : Nat) :
    Option Warning :=
  if Dependency.onCycle (forest.dependencies (forest.ties axis index)) forest.length i &&
      (tie? (forest.ties axis index) i).isSome then
    forest.cycleWarning? axis i
  else none

/-- What becomes of the reference of a figure: the warning about it, or none if it is applied. -/
def outcomeOf (forest : Forest) (axis : Axis) (index : OrderedMap Nat) (i : Nat) :
    Option Warning :=
  (forest.refusalOf axis index i).or (forest.cycleOf axis index i)

/-- What becomes of a reference of a figure: it is reported with a code, or it is applied. -/
inductive Verdict (forest : Forest) (axis : Axis) (i : Nat) (reference : Reference) :
    Option Code → Prop
  /-- The reference is malformed, or its keyword does not fit the axis. -/
  | unsupported (h : ∀ target alignment, ¬ reference.Asks axis target alignment) :
    Verdict forest axis i reference (some .unsupportedAlignment)
  /-- No figure bears the identifier. -/
  | unknown (target : String) (alignment : Alignment)
    (hasks : reference.Asks axis target alignment) (h : ∀ figure ∈ forest, figure.id ≠ target) :
    Verdict forest axis i reference (some .unknownTarget)
  /-- The figure reaches itself. -/
  | cyclic (target : String) (alignment : Alignment) (j : Nat)
    (hasks : reference.Asks axis target alignment) (hlast : forest.IsLast target j)
    (h : TransGen (forest.Needs axis) i i) :
    Verdict forest axis i reference (some .cyclicAlignment)
  | applied (target : String) (alignment : Alignment) (j : Nat)
    (hasks : reference.Asks axis target alignment) (hlast : forest.IsLast target j)
    (h : ¬ TransGen (forest.Needs axis) i i) :
    Verdict forest axis i reference none

/-- The account of a pass over an axis: what becomes of each reference, and by which offset each
figure is moved. -/
structure IsAccount (forest : Forest) (axis : Axis) (settled : Forest × List Warning)
    (outcome : Nat → Option Warning) (offsets : Nat → Option Point) : Prop where
  /-- The pass gives the warnings about the references, each once, and no others. -/
  warnings_perm : settled.2.Perm ((List.range forest.length).filterMap outcome)
  /-- A warning is about the reference of its figure. -/
  exists_reference : ∀ i w, outcome i = some w →
    ∃ reference, forest.referenceOf axis i = some reference ∧ w.place = reference.block
  /-- A reference has one verdict, which its outcome tells. -/
  verdict_iff : ∀ i reference, forest.referenceOf axis i = some reference →
    ∀ code, forest.Verdict axis i reference code ↔ (outcome i).map Warning.code = code
  /-- The boxes are those that the offsets tell. -/
  settled_eq : settled.1 = forest.withBoxes (forest.finalBox offsets)
  /-- A reference that is not reported moves its figure to where it asks for. -/
  applied : ∀ i reference, forest.referenceOf axis i = some reference → outcome i = none →
    ∃ target alignment j, reference.Asks axis target alignment ∧ forest.IsLast target j ∧
      offsets i = some (forest.requestedOffset axis offsets i ⟨j, alignment⟩)
  /-- All other figures are moved along with their containers, and in no other way. -/
  carried : ∀ i, forest.referenceOf axis i = none ∨ (outcome i).isSome →
    offsets i = none ∧ settled.1[i]? =
      forest[i]?.map fun figure => { figure with box := forest.carriedBox offsets i }

variable {forest : Forest} {axis : Axis} {index : OrderedMap Nat} {i j : Nat}
  {reference : Reference} {tie : Tie} {w : Warning} {code : Option Code}
  {offsets : Nat → Option Point}

/-! ### Warnings by figure -/

theorem tie?_ties (forest : Forest) (axis : Axis) (index : OrderedMap Nat) (i : Nat) :
    tie? (forest.ties axis index) i = (forest.requestOf axis index i).bind Except.toOption := by
  unfold tie? ties requestOf
  rw [List.getElem?_map]
  cases forest[i]? with
  | none => rfl
  | some figure =>
    cases hreference : figure.reference axis with
    | none => simp [hreference]
    | some reference =>
      cases htie : Tie.ofReference axis index reference <;> simp [hreference, htie, Except.toOption]

theorem requestOf_eq_map_referenceOf (forest : Forest) (axis : Axis) (index : OrderedMap Nat)
    (i : Nat) :
    forest.requestOf axis index i =
      (forest.referenceOf axis i).map (Tie.ofReference axis index) := by
  unfold requestOf referenceOf
  rw [Option.map_bind]
  rfl

theorem tie?_ties_of_referenceOf (h : forest.referenceOf axis i = some reference) :
    tie? (forest.ties axis index) i = (Tie.ofReference axis index reference).toOption := by
  rw [tie?_ties, requestOf_eq_map_referenceOf, h]
  rfl

theorem filterMap_range_getElem? {α β : Type} (list : List α) (g : α → Option β) :
    (List.range list.length).filterMap (fun i => list[i]?.bind g) = list.filterMap g := by
  induction list using List.reverseRecOn with
  | nil => rfl
  | append_singleton list a ih =>
    rw [List.length_append, List.length_singleton, List.range_succ, List.filterMap_append,
      List.filterMap_append, ← ih]
    congr 1
    · refine List.filterMap_congr fun i hi => ?_
      rw [List.getElem?_append_left (List.mem_range.1 hi)]
    · rw [List.filterMap_cons, List.filterMap_cons, List.getElem?_concat_length]
      rfl

theorem refusals_eq (forest : Forest) (axis : Axis) (index : OrderedMap Nat) :
    refusals (forest.ties axis index) =
      (List.range forest.length).filterMap (forest.refusalOf axis index) := by
  unfold refusals ties
  rw [List.filterMap_map, ← filterMap_range_getElem?]
  refine List.filterMap_congr fun i _ => ?_
  unfold refusalOf requestOf
  cases forest[i]? with
  | none => rfl
  | some figure =>
    cases hreference : figure.reference axis with
    | none => simp [hreference]
    | some reference =>
      cases htie : Tie.ofReference axis index reference <;> simp [hreference, htie]

/-- The warnings of a pass, by figure. -/
theorem settleAxis_snd_perm (hnested : forest.IsNested) (hindex : forest.Indexes index)
    (axis : Axis) :
    (forest.settleAxis index axis).2.Perm
      ((List.range forest.length).filterMap (forest.refusalOf axis index) ++
        (List.range forest.length).filterMap (forest.cycleOf axis index)) := by
  -- The pass lists its cycles class by class, in the order in which they are completed. Neither the
  -- classes nor the completion add or drop a figure.
  let next := forest.dependencies (forest.ties axis index)
  let cyclic (vertices : List Nat) : List Nat :=
    (vertices.filter fun i => (tie? (forest.ties axis index) i).isSome).filter
      (Dependency.onCycle next forest.length)
  have hclasses := Dependency.flatten_classes_perm next forest.length
    (cyclic (Dependency.completion next forest.length))
  have hcompletion : (Dependency.completion next forest.length).Perm (List.range forest.length) :=
    Dependency.completion_perm (dependencies_lt_length hnested hindex)
  have hcyclic : (cyclic (Dependency.completion next forest.length)).Perm
      (cyclic (List.range forest.length)) := (hcompletion.filter _).filter _
  unfold settleAxis
  simp only [List.partition_eq_filter_filter]
  rw [refusals_eq]
  refine List.Perm.append_left _ (((hclasses.trans hcyclic).filterMap _).trans (.of_eq ?_))
  change ((((List.range forest.length).filter _).filter _).filterMap _) = _
  rw [List.filter_filter, List.filterMap_filter]
  rfl

/-- Two kinds of warnings of which no figure has both, listed by figure. -/
theorem filterMap_append_perm_filterMap_or {α β : Type} {f g : α → Option β} {list : List α}
    (h : ∀ a ∈ list, f a = none ∨ g a = none) :
    (list.filterMap f ++ list.filterMap g).Perm (list.filterMap fun a => (f a).or (g a)) := by
  induction list with
  | nil => exact .refl _
  | cons a list ih =>
    have ih := ih fun b hb => h b (List.mem_cons_of_mem _ hb)
    rw [List.filterMap_cons, List.filterMap_cons, List.filterMap_cons]
    cases hf : f a with
    | some b =>
      rw [(h a List.mem_cons_self).resolve_left (by simp [hf])]
      exact ih.cons b
    | none =>
      cases g a with
      | none => exact ih
      | some b => exact List.perm_middle.trans (ih.cons b)

/-! ### What becomes of a reference -/

theorem outcomeOf_of_referenceOf_eq_none (h : forest.referenceOf axis i = none) :
    forest.outcomeOf axis index i = none := by
  have hrequest : forest.requestOf axis index i = none := by
    rw [requestOf_eq_map_referenceOf, h, Option.map_none]
  have htie : tie? (forest.ties axis index) i = none := by
    rw [tie?_ties, hrequest, Option.bind_none]
  rw [outcomeOf, refusalOf, cycleOf, hrequest, htie]
  simp

theorem outcomeOf_of_error (h : forest.referenceOf axis i = some reference)
    (hw : Tie.ofReference axis index reference = .error w) :
    forest.outcomeOf axis index i = some w := by
  rw [outcomeOf, refusalOf, requestOf_eq_map_referenceOf, h, Option.map_some, hw]
  rfl

theorem outcomeOf_of_ok (h : forest.referenceOf axis i = some reference)
    (htie : Tie.ofReference axis index reference = .ok tie) :
    forest.outcomeOf axis index i =
      if Dependency.onCycle (forest.dependencies (forest.ties axis index)) forest.length i then
        forest.cycleWarning? axis i
      else none := by
  rw [outcomeOf, refusalOf, requestOf_eq_map_referenceOf, h, Option.map_some, htie, cycleOf,
    tie?_ties_of_referenceOf h, htie]
  simp [Except.toOption]

/-- No figure gets both kinds of warnings. -/
theorem refusalOf_eq_none_or_cycleOf_eq_none (forest : Forest) (axis : Axis)
    (index : OrderedMap Nat) (i : Nat) :
    forest.refusalOf axis index i = none ∨ forest.cycleOf axis index i = none := by
  unfold refusalOf cycleOf
  rw [tie?_ties]
  cases forest.requestOf axis index i with
  | none => exact .inl rfl
  | some request =>
    cases request with
    | error w => exact .inr (by simp [Except.toOption])
    | ok tie => exact .inl rfl

theorem cycleWarning?_of_referenceOf {figure : Figure} (hi : forest[i]? = some figure)
    (h : figure.reference axis = some reference) :
    forest.cycleWarning? axis i = some (.cyclicReference axis figure.id reference.block) := by
  unfold cycleWarning?
  rw [hi, Option.bind_eq_bind, Option.bind_some, h]
  rfl

theorem exists_cycleWarning? (h : forest.referenceOf axis i = some reference) :
    ∃ w, forest.cycleWarning? axis i = some w ∧ w.code = .cyclicAlignment ∧
      w.place = reference.block := by
  obtain ⟨figure, hi, hreference⟩ := Option.bind_eq_some_iff.1 h
  exact ⟨_, cycleWarning?_of_referenceOf hi hreference, rfl, rfl⟩

/-- A warning is about the reference of its figure, which is refused or part of a cycle. -/
theorem exists_of_outcomeOf (h : forest.outcomeOf axis index i = some w) :
    ∃ figure reference, forest[i]? = some figure ∧ figure.reference axis = some reference ∧
      (Tie.ofReference axis index reference = .error w ∨
        w = .cyclicReference axis figure.id reference.block) := by
  cases hreference : forest.referenceOf axis i with
  | none =>
    rw [outcomeOf_of_referenceOf_eq_none hreference] at h
    cases h
  | some reference =>
    obtain ⟨figure, hi, hfigure⟩ := Option.bind_eq_some_iff.1 hreference
    refine ⟨figure, reference, hi, hfigure, ?_⟩
    cases hrequest : Tie.ofReference axis index reference with
    | error w' =>
      rw [outcomeOf_of_error hreference hrequest] at h
      cases h
      exact .inl rfl
    | ok tie =>
      rw [outcomeOf_of_ok hreference hrequest, cycleWarning?_of_referenceOf hi hfigure] at h
      obtain ⟨-, heq⟩ := Option.ite_none_right_eq_some.1 h
      cases heq
      exact .inr rfl

theorem exists_reference_of_outcomeOf (h : forest.outcomeOf axis index i = some w) :
    ∃ reference, forest.referenceOf axis i = some reference ∧ w.place = reference.block := by
  obtain ⟨figure, reference, hi, hreference, hw⟩ := exists_of_outcomeOf h
  refine ⟨reference, Option.bind_eq_some_iff.2 ⟨figure, hi, hreference⟩, ?_⟩
  rcases hw with hrefused | rfl
  · exact Tie.place_of_ofReference_eq_error hrefused
  · rfl

/-- A pass gives the warnings about the figures, each once. -/
theorem settleAxis_snd_perm_outcomeOf (hnested : forest.IsNested) (hindex : forest.Indexes index)
    (axis : Axis) :
    (forest.settleAxis index axis).2.Perm
      ((List.range forest.length).filterMap (forest.outcomeOf axis index)) :=
  (settleAxis_snd_perm hnested hindex axis).trans
    (filterMap_append_perm_filterMap_or fun i _ =>
      refusalOf_eq_none_or_cycleOf_eq_none forest axis index i)

/-! ### Verdicts -/

/-- Something becomes of every reference. -/
theorem exists_verdict (forest : Forest) (axis : Axis) (i : Nat) (reference : Reference) :
    ∃ code, forest.Verdict axis i reference code := by
  rcases Tie.ofReference_cases axis forest.lastIndex reference with
    ⟨-, -, -, hnone⟩ | ⟨target, alignment, hasks, hget, -⟩ | ⟨target, alignment, j, hasks, hget, -⟩
  · exact ⟨_, .unsupported hnone⟩
  · exact ⟨_, .unknown target alignment hasks (get?_lastIndex_eq_none_iff.1 hget)⟩
  · have hlast := isLast_of_get?_lastIndex hget
    by_cases hcyclic : TransGen (forest.Needs axis) i i
    · exact ⟨_, .cyclic target alignment j hasks hlast hcyclic⟩
    · exact ⟨_, .applied target alignment j hasks hlast hcyclic⟩

/-- What becomes of a reference is what the verdict tells. -/
theorem Verdict.map_code_outcomeOf (h : forest.Verdict axis i reference code)
    (hnested : forest.IsNested) (hreference : forest.referenceOf axis i = some reference) :
    (forest.outcomeOf axis forest.lastIndex i).map Warning.code = code := by
  cases h with
  | unsupported h =>
    obtain ⟨w, hw, hcode, -⟩ := Tie.ofReference_of_not_asks forest.lastIndex h
    rw [outcomeOf_of_error hreference hw, Option.map_some, hcode]
  | unknown target alignment hasks h =>
    have hw : Tie.ofReference axis forest.lastIndex reference = _ := Tie.ofReference_of_asks hasks
    rw [get?_lastIndex_eq_none_iff.2 h] at hw
    rw [outcomeOf_of_error hreference hw]
    rfl
  | cyclic target alignment j hasks hlast h =>
    obtain ⟨w, hw, hcode, -⟩ := exists_cycleWarning? hreference
    have honCycle := (onCycle_dependencies_iff hnested (indexes_lastIndex forest)).2 h
    rw [outcomeOf_of_ok hreference (ofReference_lastIndex hasks hlast), if_pos honCycle, hw,
      Option.map_some, hcode]
  | applied target alignment j hasks hlast h =>
    have honCycle := mt (onCycle_dependencies_iff hnested (indexes_lastIndex forest)).1 h
    rw [outcomeOf_of_ok hreference (ofReference_lastIndex hasks hlast), if_neg honCycle,
      Option.map_none]

/-- A reference has one verdict, which its outcome tells. -/
theorem verdict_iff (hnested : forest.IsNested)
    (hreference : forest.referenceOf axis i = some reference) :
    forest.Verdict axis i reference code ↔
      (forest.outcomeOf axis forest.lastIndex i).map Warning.code = code := by
  refine ⟨fun h => h.map_code_outcomeOf hnested hreference, ?_⟩
  rintro rfl
  obtain ⟨code, h⟩ := exists_verdict forest axis i reference
  rw [h.map_code_outcomeOf hnested hreference]
  exact h

/-! ### Accounts -/

/-- A figure whose reference is applied has the offset that the reference asks for. -/
theorem IsSolution.eq_some_of_outcomeOf (h : forest.IsSolution axis offsets)
    (hnested : forest.IsNested) (hreference : forest.referenceOf axis i = some reference)
    (houtcome : forest.outcomeOf axis forest.lastIndex i = none) :
    ∃ target alignment j, reference.Asks axis target alignment ∧ forest.IsLast target j ∧
      offsets i = some (forest.requestedOffset axis offsets i ⟨j, alignment⟩) := by
  have hverdict : forest.Verdict axis i reference none := by
    rw [verdict_iff hnested hreference, houtcome, Option.map_none]
  cases hverdict with
  | applied target alignment j hasks hlast hacyclic =>
    have htie : forest.AsksFor axis i ⟨j, alignment⟩ :=
      ⟨reference, target, hreference, hasks, hlast⟩
    exact ⟨target, alignment, j, hasks, hlast, h.tied i _ htie hacyclic⟩

/-- A figure without a reference has no offset, and neither has one whose reference is reported. -/
theorem IsSolution.eq_none_of_outcomeOf (h : forest.IsSolution axis offsets)
    (hnested : forest.IsNested)
    (hi : forest.referenceOf axis i = none ∨ (forest.outcomeOf axis forest.lastIndex i).isSome) :
    offsets i = none := by
  cases hreference : forest.referenceOf axis i with
  | none =>
    refine h.untied i fun tie htie => ?_
    obtain ⟨reference, id, hsome, -⟩ := htie
    cases hreference.symm.trans hsome
  | some reference =>
    have hsome := hi.resolve_left (by simp [hreference])
    obtain ⟨code, hverdict⟩ := exists_verdict forest axis i reference
    have hcode := hverdict.map_code_outcomeOf hnested hreference
    -- Of all verdicts, only the one that reports nothing comes with an offset.
    cases hverdict with
    | unsupported hnone =>
      refine h.untied i fun tie htie => ?_
      obtain ⟨reference', id, hreference', hasks, -⟩ := htie
      obtain rfl := Option.some.inj (hreference.symm.trans hreference')
      exact hnone id tie.alignment hasks
    | unknown target alignment hasks hnone =>
      refine h.untied i fun tie htie => ?_
      obtain ⟨reference', id, hreference', hasks', ⟨figure, hfigure, hid⟩, -⟩ := htie
      obtain rfl := Option.some.inj (hreference.symm.trans hreference')
      obtain ⟨rfl, -⟩ := Tie.asks_unique hasks hasks'
      exact hnone figure (List.mem_of_getElem? hfigure) hid
    | cyclic target alignment j hasks hlast hcyclic => exact h.cyclic i hcyclic
    | applied target alignment j hasks hlast hacyclic =>
      rw [Option.map_eq_none_iff.1 hcode] at hsome
      cases hsome

/-- A pass does with the references as their verdicts say. -/
theorem exists_isAccount (hnested : forest.IsNested) (axis : Axis) :
    ∃ offsets, forest.IsAccount axis (forest.settleAxis forest.lastIndex axis)
      (forest.outcomeOf axis forest.lastIndex) offsets := by
  have hindex := indexes_lastIndex forest
  obtain ⟨offsets, hsolution, hsettle⟩ := exists_isSolution hnested hindex axis
  refine ⟨offsets, ⟨?_, ?_, ?_, hsettle, ?_, ?_⟩⟩
  · exact settleAxis_snd_perm_outcomeOf hnested hindex axis
  · exact fun i w => exists_reference_of_outcomeOf
  · exact fun i reference hreference code => verdict_iff hnested hreference
  · exact fun i reference hreference => hsolution.eq_some_of_outcomeOf hnested hreference
  · intro i hi
    have hnone := hsolution.eq_none_of_outcomeOf hnested hi
    refine ⟨hnone, ?_⟩
    rw [hsettle, getElem?_withBoxes, finalBox_of_none hnone]

/-- A pass over the figures of any declarations, also after other passes, which change no more than
the boxes, reports each reference once or else applies it, as the verdict on the reference says. It
reports nothing else, and figures whose references are not applied only go along with their
containers. -/
theorem settleAxis_place_outcomes (catalog : Catalog) (declarations : List Declaration)
    (passes : List Axis) (axis : Axis) :
    let placed := (place catalog none declarations ([], [])).1
    let index := placed.lastIndex
    let forest := afterPasses index placed passes
    (∃ boxes, forest = placed.withBoxes boxes) ∧
      ∃ outcome offsets, forest.IsAccount axis (forest.settleAxis index axis) outcome offsets := by
  intro placed index forest
  have hplaced : placed.IsNested := isNested_place catalog declarations
  obtain ⟨boxes, hboxes⟩ := afterPasses_eq_withBoxes hplaced (indexes_lastIndex placed) passes
  have hforest : forest = placed.withBoxes boxes := hboxes
  have hindex : index = forest.lastIndex := by rw [hforest, lastIndex_withBoxes]
  have hnested : forest.IsNested := hforest ▸ hplaced.withBoxes boxes
  refine ⟨⟨boxes, hforest⟩, forest.outcomeOf axis index, ?_⟩
  rw [hindex]
  exact exists_isAccount hnested axis

end BoxArrow.Forest
