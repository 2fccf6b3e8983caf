import BoxArrow.Proofs.Layout.Offsets

/-!
# Passes solve their equations

A pass over an axis moves one figure after the other, with all that is inside it, to where its tie
asks for as the figures stand at that time. What it has moved stays in place to the end, and so
does what the tie was read from, so that in the end all equations hold at once.

## Main definitions

* `Forest.IsStage` — a pass in which certain figures have taken their turns

## Main results

* `Forest.IsStage.step` — a turn adds one offset and keeps those before
* `Forest.exists_isSolution` — a pass over an axis solves its equations
* `Forest.settleAxis_place` — so does each of the passes over the figures of declarations
-/

namespace BoxArrow.Forest

open Relation

/-- Some figures have taken their turns: they have the offsets that their ties ask for, and the
forest stands as the offsets tell. -/
structure IsStage (forest : Forest) (axis : Axis) (index : OrderedMap Nat) (earlier : List Nat)
    (offsets : Nat → Option Point) : Prop where
  eq_none : ∀ i, i ∉ earlier → offsets i = none
  tied : ∀ i ∈ earlier, ∀ tie, forest.AsksFor axis i tie →
    offsets i = some (forest.requestedOffset axis offsets i tie)
  foldl_align : earlier.foldl (align axis (forest.ties axis index)) forest =
    forest.withBoxes (forest.finalBox offsets)

variable {forest : Forest} {axis : Axis} {index : OrderedMap Nat} {i j : Nat} {tie : Tie}
  {offsets : Nat → Option Point} {earlier later rest : List Nat}

theorem settleAxis_fst (forest : Forest) (axis : Axis) (index : OrderedMap Nat) :
    (forest.settleAxis index axis).1 =
      (forest.turns axis index).foldl (align axis (forest.ties axis index)) forest := by
  unfold settleAxis turns
  simp only [List.partition_eq_filter_filter]
  rfl

theorem offset_withBoxes {boxes : Nat → Box} (hi : i < forest.length)
    (htarget : tie.target < forest.length) :
    (forest.withBoxes boxes).offset axis i tie =
      .along axis (tie.alignment.position ((boxes tie.target).start axis)
        ((boxes tie.target).extent axis) ((boxes i).extent axis) - (boxes i).start axis) := by
  unfold offset
  rw [getElem?_withBoxes, getElem?_withBoxes, List.getElem?_eq_getElem hi,
    List.getElem?_eq_getElem htarget]
  rfl

theorem isStage_nil (forest : Forest) (axis : Axis) (index : OrderedMap Nat) :
    forest.IsStage axis index [] fun _ => none where
  eq_none _ _ := rfl
  tied _ hi := absurd hi List.not_mem_nil
  foldl_align := by
    rw [finalBox_none, withBoxes_boxOf]
    rfl

section Turns

variable (hnested : forest.IsNested) (hindex : forest.Indexes index)
include hnested hindex

/-- A turn adds one offset and keeps those before. -/
theorem IsStage.step (h : forest.IsStage axis index earlier offsets)
    (hturns : forest.turns axis index = earlier ++ i :: later) :
    ∃ offsets', forest.IsStage axis index (earlier ++ [i]) offsets' ∧
      ∀ c ∈ earlier, offsets' c = offsets c := by
  obtain ⟨⟨tie, htie⟩, hacyclic⟩ :=
    (mem_turns_iff hnested hindex).1 (hturns ▸ List.mem_append_right _ List.mem_cons_self)
  have hlater : ∀ c, c = i ∨ TransGen (forest.Needs axis) c i → c ∉ earlier :=
    fun c hc => notMem_of_turns_eq_append hnested hindex hturns hc
  -- Nothing inside the figure has had its turn, as it needs the figure.
  have hinside : ∀ c, c = i ∨ i ∈ forest.containers c → offsets c = none := fun c hc =>
    h.eq_none c (hlater c (hc.imp_right (transGen_of_mem_containers hnested)))
  let offset := forest.requestedOffset axis offsets i tie
  have hkeep : ∀ c, c ≠ i → Function.update offsets i (some offset) c = offsets c :=
    fun c hc => Function.update_of_ne hc _ _
  have hi : i ∉ earlier := hlater i (.inl rfl)
  -- Neither the figure nor its target is inside the figure, so the new offset moves neither.
  have hown : forest.requestedOffset axis (Function.update offsets i (some offset)) i tie =
      offset := by
    refine requestedOffset_congr (fun c hc => hkeep c ?_) fun c hc => hkeep c ?_
    · exact Nat.ne_of_lt (hnested.lt_of_mem_containers hc)
    · rintro rfl
      exact hacyclic (htie.transGen hnested hc)
  refine ⟨Function.update offsets i (some offset), ⟨fun c hc => ?_, fun c hc tie' htie' => ?_, ?_⟩,
    fun c hc => hkeep c fun hci => hi (hci ▸ hc)⟩
  · rw [List.mem_append, List.mem_singleton, not_or] at hc
    rw [hkeep c hc.2]
    exact h.eq_none c hc.1
  · rcases List.mem_append.1 hc with hc | hc
    · -- A figure moved before does not need this one.
      have hfree : ¬ TransGen (forest.Needs axis) c i := fun hci => hlater c (.inr hci) hc
      rw [hkeep c fun hci => hi (hci ▸ hc), h.tied c hc tie' htie']
      refine congrArg some (Eq.symm ?_)
      refine requestedOffset_congr (fun d hd => hkeep d ?_) fun d hd => hkeep d ?_
      · rintro rfl
        exact hfree (transGen_of_mem_containers hnested hd)
      · rintro rfl
        exact hfree (htie'.transGen hnested hd)
    · obtain rfl := List.mem_singleton.1 hc
      obtain rfl := htie.unique htie'
      rw [Function.update_self, hown]
  · -- The tie is read from the forest as it stands, which is what the offsets so far say.
    have hoffset : (forest.withBoxes (forest.finalBox offsets)).offset axis i tie = offset := by
      rw [offset_withBoxes htie.lt_length htie.target_lt_length,
        finalBox_of_none (h.eq_none i hi)]
      rfl
    rw [List.foldl_append, h.foldl_align, List.foldl_cons, List.foldl_nil, align,
      hindex.tie?_eq_some_iff.2 htie]
    change (forest.withBoxes (forest.finalBox offsets)).move i _ = _
    rw [hoffset, withBoxes_move _ hnested]
    congr 1
    funext c
    by_cases hc : c = i ∨ i ∈ forest.containers c
    · rw [if_pos hc, finalBox_update hnested hinside hc]
    · rw [if_neg hc]
      refine (finalBox_congr fun d hd => hkeep d ?_).symm
      rintro rfl
      exact hc (hd.imp_left Eq.symm)

/-- Further turns add their offsets and keep those before. -/
theorem IsStage.run (h : forest.IsStage axis index earlier offsets)
    (hturns : forest.turns axis index = earlier ++ (later ++ rest)) :
    ∃ offsets', forest.IsStage axis index (earlier ++ later) offsets' ∧
      ∀ c ∈ earlier, offsets' c = offsets c := by
  induction later generalizing earlier offsets with
  | nil => exact ⟨offsets, (List.append_nil earlier).symm ▸ h, fun _ _ => rfl⟩
  | cons i later ih =>
    obtain ⟨offsets', hstage, hkeep⟩ := h.step hnested hindex hturns
    rw [List.cons_append, ← List.singleton_append, ← List.append_assoc] at hturns
    obtain ⟨offsets'', hstage', hkeep'⟩ := ih hstage hturns
    refine ⟨offsets'', ?_, fun c hc => ?_⟩
    · rw [List.append_assoc, List.singleton_append] at hstage'
      exact hstage'
    · rw [hkeep' c (List.mem_append_left _ hc), hkeep c hc]

/-- When all turns are taken, the equations of the pass hold. -/
theorem IsStage.isSolution (h : forest.IsStage axis index (forest.turns axis index) offsets) :
    forest.IsSolution axis offsets where
  tied i tie htie hacyclic :=
    h.tied i ((mem_turns_iff hnested hindex).2 ⟨⟨tie, htie⟩, hacyclic⟩) tie htie
  untied i hnone := by
    refine h.eq_none i fun hi => ?_
    obtain ⟨⟨tie, htie⟩, -⟩ := (mem_turns_iff hnested hindex).1 hi
    exact hnone tie htie
  cyclic i hcyclic := h.eq_none i fun hi => ((mem_turns_iff hnested hindex).1 hi).2 hcyclic

/-- A pass over an axis solves its equations, and leaves every figure where they say. -/
theorem exists_isSolution (axis : Axis) :
    ∃ offsets, forest.IsSolution axis offsets ∧
      (forest.settleAxis index axis).1 = forest.withBoxes (forest.finalBox offsets) := by
  obtain ⟨offsets, hstage, -⟩ :=
    (isStage_nil forest axis index).run hnested hindex (List.append_nil _).symm
  exact ⟨offsets, hstage.isSolution hnested hindex, (settleAxis_fst ..).trans hstage.foldl_align⟩

/-- Once a figure has taken its turn, neither it nor what it needs moves any more. -/
theorem getElem?_foldl_align (hturns : forest.turns axis index = earlier ++ i :: later)
    (hj : j = i ∨ forest.Needs axis i j) :
    ((earlier ++ [i]).foldl (align axis (forest.ties axis index)) forest)[j]? =
      (forest.settleAxis index axis).1[j]? := by
  have hsplit : forest.turns axis index = (earlier ++ [i]) ++ later := by
    rw [hturns, List.append_assoc, List.singleton_append]
  obtain ⟨offsets, hstage, -⟩ := (isStage_nil forest axis index).run hnested hindex hsplit
  obtain ⟨offsets', hstage', hkeep⟩ :=
    hstage.run hnested hindex (hsplit.trans (congrArg _ (List.append_nil later).symm))
  rw [List.nil_append, ← hsplit] at hstage'
  have hbefore := hstage.foldl_align
  rw [List.nil_append] at hbefore
  rw [settleAxis_fst, hbefore, hstage'.foldl_align, getElem?_withBoxes, getElem?_withBoxes]
  -- What the figure needs has had its turn before, or takes none.
  have hagree : ∀ c, c = i ∨ TransGen (forest.Needs axis) i c → offsets c = offsets' c := by
    intro c hc
    by_cases hmem : c ∈ earlier ++ [i]
    · exact (hkeep c hmem).symm
    · rw [List.mem_append, List.mem_singleton, not_or] at hmem
      have hturn : c ∉ forest.turns axis index := fun hturn =>
        hmem.1 (mem_of_turns_eq_append hnested hindex hturns (hc.resolve_left hmem.2) hturn)
      rw [hstage'.eq_none c hturn]
      refine hstage.eq_none c fun hc => hturn ?_
      rw [hsplit]
      exact List.mem_append_left _ hc
  rw [finalBox_congr fun c hc => hagree c ?_]
  rcases hj with rfl | hj
  · exact hc.imp_right (transGen_of_mem_containers hnested)
  · refine .inr ?_
    rcases hc with rfl | hc
    · exact .single hj
    · exact .head hj (transGen_of_mem_containers hnested hc)

end Turns

/-- The last index of a forest finds figures that bear the identifier. -/
theorem getElem?_of_get?_lastIndex {id : String} (h : forest.lastIndex.get? id = some i) :
    ∃ figure, forest[i]? = some figure ∧ figure.id = id :=
  (isLast_of_get?_lastIndex h).1

/-- The forest after passes over some axes, one after the other. -/
def afterPasses (index : OrderedMap Nat) (forest : Forest) (passes : List Axis) : Forest :=
  passes.foldl (fun forest axis => (forest.settleAxis index axis).1) forest

theorem afterPasses_append_singleton (index : OrderedMap Nat) (forest : Forest)
    (passes : List Axis) (axis : Axis) :
    afterPasses index forest (passes ++ [axis]) =
      ((afterPasses index forest passes).settleAxis index axis).1 := by
  rw [afterPasses, List.foldl_append]
  rfl

/-- All ties are fulfilled by one pass over each axis. -/
theorem settle_fst (index : OrderedMap Nat) (forest : Forest) :
    (forest.settle index).1 = afterPasses index forest [.horizontal, .vertical] := by
  rw [settle, afterPasses, List.foldl_cons, List.foldl_cons, List.foldl_nil]

theorem afterPasses_eq_withBoxes (hnested : forest.IsNested) (hindex : forest.Indexes index)
    (passes : List Axis) : ∃ boxes, afterPasses index forest passes = forest.withBoxes boxes := by
  induction passes using List.reverseRecOn with
  | nil => exact ⟨forest.boxOf, (withBoxes_boxOf forest).symm⟩
  | append_singleton passes axis ih =>
    obtain ⟨boxes, hboxes⟩ := ih
    obtain ⟨offsets, -, hsettle⟩ :=
      exists_isSolution (hnested.withBoxes boxes) (hindex.withBoxes boxes) axis
    refine ⟨(forest.withBoxes boxes).finalBox offsets, ?_⟩
    rw [afterPasses_append_singleton, hboxes, hsettle, withBoxes_withBoxes]

/-- A pass over the figures of any declarations solves its equations, also after other passes. The
equations have one solution, every figure ends up where it says, and once a figure has been moved
to where its tie asks for, neither it nor what it needs moves any more. -/
theorem settleAxis_place (catalog : Catalog) (declarations : List Declaration)
    (passes : List Axis) (axis : Axis) :
    let placed := (place catalog none declarations ([], [])).1
    let index := placed.lastIndex
    let forest := afterPasses index placed passes
    (∃ offsets, forest.IsSolution axis offsets ∧
      (∀ offsets', forest.IsSolution axis offsets' → offsets' = offsets) ∧
        (forest.settleAxis index axis).1 = forest.withBoxes (forest.finalBox offsets)) ∧
    (forest.settleAxis index axis).1 =
      (forest.turns axis index).foldl (align axis (forest.ties axis index)) forest ∧
    ∀ earlier i later, forest.turns axis index = earlier ++ i :: later →
      ∀ j, j = i ∨ forest.Needs axis i j →
        ((earlier ++ [i]).foldl (align axis (forest.ties axis index)) forest)[j]? =
          (forest.settleAxis index axis).1[j]? := by
  intro placed index forest
  have hplaced : placed.IsNested := isNested_place catalog declarations
  obtain ⟨boxes, hboxes⟩ := afterPasses_eq_withBoxes hplaced (indexes_lastIndex placed) passes
  have hforest : forest = placed.withBoxes boxes := hboxes
  have hnested : forest.IsNested := hforest ▸ hplaced.withBoxes boxes
  have hindex : forest.Indexes index := hforest ▸ (indexes_lastIndex placed).withBoxes boxes
  obtain ⟨offsets, hsolution, hsettle⟩ := exists_isSolution hnested hindex axis
  -- Passes before this one have changed the boxes only, so the forest is still nested.
  refine ⟨⟨offsets, hsolution, fun offsets' h' => ?_, hsettle⟩, settleAxis_fst .., ?_⟩
  · exact h'.unique hnested hindex hsolution
  · intro earlier i later hturns j hj
    exact getElem?_foldl_align hnested hindex hturns hj

end BoxArrow.Forest
