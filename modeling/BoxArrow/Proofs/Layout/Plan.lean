import BoxArrow.Proofs.Document.Names
import BoxArrow.Proofs.Layout.Components

/-!
# The phases of a layout

A layout is made in phases: the canvas, the figures with their blocks, their ties, and the
connections. Each phase gives warnings of its own, which their codes tell apart, and once the
figures are placed no phase adds one or takes one away.

## Main definitions

* `Code.IsOfTie` — the codes of references that are not followed
* `Planner.placed`, `Planner.settled` — the figures of a document before and after their ties
  are fulfilled

## Main results

* `Planner.contains_places_iff` — a layout has a place for what the document declares
* `Forest.exists_of_mem_settle` — a warning about ties is about the reference of a figure
* `Planner.code_of_mem_canvasOf`, `Planner.code_of_mem_placed`, `Planner.isOfTie_of_mem_settled` —
  the codes of the warnings of each phase
-/

namespace BoxArrow

attribute [ext] Layout

/-- A code of a reference that is not followed. -/
def Code.IsOfTie (code : Code) : Prop :=
  code = .unsupportedAlignment ∨ code = .unknownTarget ∨ code = .cyclicAlignment

variable {w : Warning}

namespace Figure

theorem code_of_mem_tryAmend {placed : Bool} {block : Option StateDeclaration} {figure : Figure}
    (hw : w ∈ (figure.tryAmend placed block).2) : w.code = .invalidBlock := by
  unfold tryAmend at hw
  split at hw
  · cases hw
  · split at hw
    · cases hw
    · cases List.mem_singleton.1 hw
      rfl

theorem code_of_mem_ofDeclaration {catalog : Catalog} {parent : Option Nat} {d : Declaration}
    (hw : w ∈ (ofDeclaration catalog parent d).2) : w.code = .invalidBlock :=
  (List.mem_append.1 hw).elim code_of_mem_tryAmend code_of_mem_tryAmend

end Figure

namespace Forest

variable {forest : Forest} {axis : Axis} {index : OrderedMap Nat}

theorem code_of_mem_warningsOf {catalog : Catalog} {declarations : List Declaration}
    (hw : w ∈ warningsOf catalog declarations) : w.code = .invalidBlock := by
  rw [warningsOf_eq_flatMap] at hw
  obtain ⟨d, -, hw⟩ := List.mem_flatMap.1 hw
  exact Figure.code_of_mem_ofDeclaration hw

theorem isOfTie_of_ofReference_eq_error {reference : Reference}
    (h : Tie.ofReference axis index reference = .error w) : w.code.IsOfTie := by
  unfold Tie.ofReference at h
  split at h
  · cases h
    exact .inl rfl
  · cases h
    exact .inl rfl
  · dsimp only at h
    split at h <;> cases h
    · exact .inl rfl
    · exact .inr (.inl rfl)

/-- A warning of a pass is about a reference of some figure, which is refused or part of a cycle. -/
theorem exists_of_mem_settleAxis (hnested : forest.IsNested) (hindex : forest.Indexes index)
    (hw : w ∈ (forest.settleAxis index axis).2) :
    ∃ (i : Nat) (figure : Figure) (reference : Reference), forest[i]? = some figure ∧
      figure.reference axis = some reference ∧
        (Tie.ofReference axis index reference = .error w ∨
          w = .cyclicReference axis figure.id reference.block) := by
  have hmem := (settleAxis_snd_perm_outcomeOf hnested hindex axis).subset hw
  obtain ⟨i, -, houtcome⟩ := List.mem_filterMap.1 hmem
  exact ⟨i, exists_of_outcomeOf houtcome⟩

/-- The references that both passes look at are those that the figures have at first. -/
theorem exists_of_mem_settle (hnested : forest.IsNested) (hindex : forest.Indexes index)
    (hw : w ∈ (forest.settle index).2) :
    ∃ figure ∈ forest, ∃ axis reference, figure.reference axis = some reference ∧
      (Tie.ofReference axis index reference = .error w ∨
        w = .cyclicReference axis figure.id reference.block) := by
  unfold settle at hw
  rcases List.mem_append.1 hw with hw | hw
  · obtain ⟨i, figure, reference, hi, hreference⟩ := exists_of_mem_settleAxis hnested hindex hw
    exact ⟨figure, List.mem_of_getElem? hi, _, reference, hreference⟩
  · obtain ⟨offsets, -, hsettle⟩ := exists_isSolution hnested hindex .horizontal
    rw [hsettle] at hw
    obtain ⟨i, moved, reference, hmoved, hreference⟩ :=
      exists_of_mem_settleAxis (hnested.withBoxes _) (hindex.withBoxes _) hw
    rw [getElem?_withBoxes, Option.map_eq_some_iff] at hmoved
    obtain ⟨figure, hi, rfl⟩ := hmoved
    exact ⟨figure, List.mem_of_getElem? hi, .vertical, reference, hreference⟩

/-- Fulfilling all ties changes no more than the boxes. -/
theorem settle_eq_withBoxes (hnested : forest.IsNested) (hindex : forest.Indexes index) :
    ∃ boxes, (forest.settle index).1 = forest.withBoxes boxes := by
  rw [settle_fst]
  exact afterPasses_eq_withBoxes hnested hindex _

end Forest

namespace Planner

variable (planner : Planner) (document : Document)

/-- The figures of a document before their ties are fulfilled, and the warnings about their
blocks. -/
def placed : Forest × List Warning :=
  Forest.place planner.catalog none document.declarations ([], [])

/-- The figures of a document after their ties are fulfilled, and the warnings about those that
are not. -/
def settled : Forest × List Warning :=
  (planner.placed document).1.settle (planner.placed document).1.lastIndex

/-- Fulfilling the ties changes no more than the boxes of the figures. -/
theorem exists_settled_eq_withBoxes :
    ∃ boxes, (planner.settled document).1 = (planner.placed document).1.withBoxes boxes :=
  Forest.settle_eq_withBoxes (Forest.isNested_place planner.catalog document.declarations)
    (Forest.indexes_lastIndex _)

theorem isNested_settled : (planner.settled document).1.IsNested := by
  obtain ⟨boxes, hboxes⟩ := planner.exists_settled_eq_withBoxes document
  rw [hboxes]
  exact (Forest.isNested_place planner.catalog document.declarations).withBoxes boxes

theorem lastIndex_settled :
    (planner.settled document).1.lastIndex = (planner.placed document).1.lastIndex := by
  obtain ⟨boxes, hboxes⟩ := planner.exists_settled_eq_withBoxes document
  rw [hboxes, Forest.lastIndex_withBoxes]

variable {planner document}

theorem code_of_mem_canvasOf (hw : w ∈ (planner.canvasOf document).2) :
    w.code = .invalidBlock := by
  unfold canvasOf at hw
  split at hw
  · cases hw
  · split at hw
    · cases hw
    · cases List.mem_singleton.1 hw
      rfl

theorem code_of_mem_placed (hw : w ∈ (planner.placed document).2) : w.code = .invalidBlock := by
  rw [placed, Forest.warnings_place, List.nil_append] at hw
  exact Forest.code_of_mem_warningsOf hw

theorem isOfTie_of_mem_settled (hw : w ∈ (planner.settled document).2) : w.code.IsOfTie := by
  obtain ⟨figure, -, axis, reference, -, hrefused | rfl⟩ :=
    Forest.exists_of_mem_settle (Forest.isNested_place ..) (Forest.indexes_lastIndex _) hw
  · exact Forest.isOfTie_of_ofReference_eq_error hrefused
  · exact .inr (.inr rfl)

variable (planner document)

/-- A layout is put together from its phases. -/
theorem plan_eq :
    planner.plan document =
      { canvas := .ofCorner .origin (planner.canvasOf document).1
        components :=
          (planner.settled document).1.map (component (planner.settled document).1)
        places := placesOf (planner.placed document).1.lastIndex (planner.settled document).1
        arrows := (document.connections.foldl (planner.connect
          (placesOf (planner.placed document).1.lastIndex (planner.settled document).1))
          ([], [])).1
        warnings := (planner.canvasOf document).2 ++ (planner.placed document).2 ++
          (planner.settled document).2 ++ (document.connections.foldl (planner.connect
            (placesOf (planner.placed document).1.lastIndex (planner.settled document).1))
            ([], [])).2 } := by
  unfold plan settled placed
  generalize Forest.place planner.catalog none document.declarations ([], []) = placed
  generalize planner.canvasOf document = canvas
  obtain ⟨forest, found⟩ := placed
  dsimp only

theorem canvas_plan :
    (planner.plan document).canvas = .ofCorner .origin (planner.canvasOf document).1 := by
  rw [plan_eq]

theorem components_plan :
    (planner.plan document).components =
      (planner.settled document).1.map (component (planner.settled document).1) := by
  rw [plan_eq]

theorem places_plan :
    (planner.plan document).places =
      placesOf (planner.placed document).1.lastIndex (planner.settled document).1 := by
  rw [plan_eq]

/-- The arrows are those that the connections add, one after the other. -/
theorem arrows_plan_eq_foldl :
    (planner.plan document).arrows =
      (document.connections.foldl (planner.connect (planner.plan document).places)
        ([], [])).1 := by
  rw [plan_eq]

/-- The warnings of a layout, phase by phase. -/
theorem warnings_plan_eq_foldl :
    (planner.plan document).warnings =
      (planner.canvasOf document).2 ++ (planner.placed document).2 ++
        (planner.settled document).2 ++
          (document.connections.foldl (planner.connect (planner.plan document).places)
            ([], [])).2 := by
  rw [plan_eq]

theorem get?_places (id : String) :
    (planner.plan document).places.get? id =
      ((planner.placed document).1.lastIndex.get? id).map (planner.settled document).1.boxOf := by
  rw [places_plan, ← lastIndex_settled]
  exact Forest.get?_placesOf (Forest.indexes_lastIndex _) id

/-- A layout has a place for what the document declares. -/
theorem contains_places_iff (id : String) :
    (planner.plan document).places.contains id = true ↔ document.Declares id := by
  have hnone : (planner.placed document).1.lastIndex.get? id = none ↔
      id ∉ Declaration.names document.declarations := by
    rw [Forest.get?_lastIndex_eq_none_iff, ← Forest.map_id_place planner.catalog, List.mem_map]
    exact ⟨fun h ⟨figure, hmem, hid⟩ => h figure hmem hid, fun h figure hmem hid =>
      h ⟨figure, hmem, hid⟩⟩
  rw [OrderedMap.contains, get?_places, Option.isSome_map, ← Document.mem_names_iff,
    ← not_iff_not, ← hnone, Bool.not_eq_true, Option.isSome_eq_false_iff, Option.isNone_iff_eq_none]

end Planner

end BoxArrow
