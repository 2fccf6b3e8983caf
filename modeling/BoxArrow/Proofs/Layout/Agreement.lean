import BoxArrow.Proofs.Layout.Plan
import BoxArrow.Proofs.Layout.Statements

/-!
# Agreement of layouts

Two layouts agree if a reader of the diagrams cannot tell them apart, and if what they say about
their sources differs in the order and in the places only. The layout of a document does not depend
on the order of its statements, as long as its identifiers are distinct and as long as the states
of each name and the connections keep theirs.

## Main definitions

* `Layout.Agrees` — layouts that cannot be told apart

## Main results

* `Planner.plan_agrees` — the order of statements does not show in the layout
-/

namespace BoxArrow

/-- Layouts that cannot be told apart, the order of components and warnings and the places in the
source aside. -/
structure Layout.Agrees (layout layout' : Layout) : Prop where
  canvas : layout.canvas = layout'.canvas
  components : layout.components.Perm layout'.components
  component? : ∀ id, layout.component? id = layout'.component? id
  places : ∀ id, layout.places.get? id = layout'.places.get? id
  arrows : layout.arrows = layout'.arrows
  findings : (layout.warnings.map fun w => w.finding.bare).Perm
    (layout'.warnings.map fun w => w.finding.bare)

namespace Planner

variable (planner : Planner) {document document' : Document}

theorem canvasOf_congr (hsame : SameStates document.states document'.states) :
    (planner.canvasOf document).1 = (planner.canvasOf document').1 ∧
      (planner.canvasOf document).2.map Warning.bare =
        (planner.canvasOf document').2.map Warning.bare := by
  -- The canvas is read from one block, which both documents have or both lack.
  have hblock := hsame canvasBlock
  unfold canvasOf
  cases hget : document.states.get? canvasBlock with
  | none =>
    rw [hget, Option.map_none, eq_comm, Option.map_eq_none_iff] at hblock
    rw [hblock]
    exact ⟨rfl, rfl⟩
  | some block =>
    rw [hget, Option.map_some, eq_comm, Option.map_eq_some_iff] at hblock
    obtain ⟨block', hget', hbare⟩ := hblock
    obtain ⟨hname, hcontent, -⟩ := StateDeclaration.mk.inj hbare
    rw [hget']
    dsimp only
    rw [hcontent]
    cases CanvasSpec.schema.read block.content .empty with
    | ok size => exact ⟨rfl, rfl⟩
    | error e => exact ⟨rfl, congrArg (fun block => [Warning.invalidBlock block e]) hbare.symm⟩

/-- Connections that are the same up to places are routed alike between the same places. -/
theorem foldl_connect_congr {places places' : OrderedMap Box}
    (hplaces : ∀ id, places.get? id = places'.get? id) {cs cs' : List Connection}
    (h : cs.map Connection.bare = cs'.map Connection.bare) :
    (cs.foldl (planner.connect places) ([], [])).1 =
        (cs'.foldl (planner.connect places') ([], [])).1 ∧
      (cs.foldl (planner.connect places) ([], [])).2.map Warning.bare =
        (cs'.foldl (planner.connect places') ([], [])).2.map Warning.bare := by
  have hconnect : planner.connect places = planner.connect places' := by
    funext result c
    exact planner.connect_congr (hplaces _) (hplaces _) result
  -- Both lists are routed like their bare connections, which are the same.
  have hbare := planner.foldl_connect_relocate Span.erase places' cs ([], [])
  have hbare' := planner.foldl_connect_relocate Span.erase places' cs' ([], [])
  rw [hconnect]
  exact Prod.mk.inj (hbare.symm.trans ((congrArg _ h).trans hbare'))

theorem map_finding_perm {warnings warnings' : List Warning}
    (h : (warnings.map Warning.bare).Perm (warnings'.map Warning.bare)) :
    (warnings.map fun w => w.finding.bare).Perm (warnings'.map fun w => w.finding.bare) := by
  rw [Warning.map_finding_bare, Warning.map_finding_bare]
  exact h.map _

variable {ss ss' : List Statement}

/-- If the identifiers are distinct, the figures of a document find one another by them. -/
theorem exists_renumbers_placed
    (hids : ((ss.flatMap Statement.headings).map Heading.name).Nodup)
    (hsame : SameStates (Document.statesOf ss) (Document.statesOf ss'))
    (hperm : (ss.map Statement.bare).Perm (ss'.map Statement.bare)) :
    let placed := (planner.placed (.ofStatements ss)).1
    let placed' := (planner.placed (.ofStatements ss')).1
    (placed.map Figure.id).Nodup ∧ ∃ σ, Forest.Renumbers σ placed placed' ∧
      ∀ id, placed'.lastIndex.get? id = (placed.lastIndex.get? id).map σ := by
  intro placed placed'
  have hrows : placed.rows = _ := Document.rows_place planner.catalog ss
  have hrows' : placed'.rows = _ := Document.rows_place planner.catalog ss'
  have hnodup : (placed.map Figure.id).Nodup := by
    rw [← Forest.map_id_rows, hrows, List.map_flatMap]
    rw [List.map_flatMap] at hids
    convert hids using 3
    exact Statement.map_id_rows (Document.isNamed_statesOf ss) planner.catalog _
  refine ⟨hnodup, Forest.exists_renumbers (Forest.isNested_place ..) (Forest.isNested_place ..)
    hnodup ?_⟩
  rw [hrows, hrows']
  exact Document.rows_perm planner.catalog hsame hperm

/-- The figures correspond when they are placed, and still do when all ties are fulfilled. -/
theorem exists_renumbers_settled
    (hids : ((ss.flatMap Statement.headings).map Heading.name).Nodup)
    (hsame : SameStates (Document.statesOf ss) (Document.statesOf ss'))
    (hperm : (ss.map Statement.bare).Perm (ss'.map Statement.bare)) :
    let settled := planner.settled (.ofStatements ss)
    let settled' := planner.settled (.ofStatements ss')
    (settled.1.map Figure.id).Nodup ∧ ∃ σ, Forest.Renumbers σ settled.1 settled'.1 ∧
      (∀ id, settled'.1.lastIndex.get? id = (settled.1.lastIndex.get? id).map σ) ∧
      (settled.2.map Warning.bare).Perm (settled'.2.map Warning.bare) := by
  intro settled settled'
  obtain ⟨hnodup, σ, hrenumbers, hget⟩ := planner.exists_renumbers_placed hids hsame hperm
  obtain ⟨boxes, boxes', found, hsettle, hsettle', hsettled, hties, hfound⟩ :=
    hrenumbers.settle (.of_get? hget _) (Forest.isNested_place ..) (Forest.isNested_place ..)
      (Forest.indexes_lastIndex _) (Forest.indexes_lastIndex _)
  -- There are no other figures that warnings might be about.
  obtain rfl : found = [] := List.eq_nil_iff_forall_not_mem.2 fun w hw => by
    obtain ⟨i, hi, -⟩ := hfound w hw
    cases hi
  rw [List.append_nil] at hties
  have hforest : settled.1 = (planner.placed (.ofStatements ss)).1.withBoxes boxes := hsettle
  have hforest' : settled'.1 = (planner.placed (.ofStatements ss')).1.withBoxes boxes' := hsettle'
  rw [hforest, hforest', Forest.map_id_withBoxes, Forest.lastIndex_withBoxes,
    Forest.lastIndex_withBoxes]
  exact ⟨hnodup, σ, hsettled, hget, hties.symm⟩

/-- The order of statements does not show in the layout. -/
theorem plan_agrees
    (hids : ((ss.flatMap Statement.headings).map Heading.name).Nodup)
    (hsame : SameStates (Document.statesOf ss) (Document.statesOf ss'))
    (hconnections : (ss.flatMap Statement.connections).map Connection.bare =
      (ss'.flatMap Statement.connections).map Connection.bare)
    (hperm : (ss.map Statement.bare).Perm (ss'.map Statement.bare)) :
    (planner.plan (.ofStatements ss)).Agrees (planner.plan (.ofStatements ss')) := by
  obtain ⟨hnodup, σ, hsettled, hget, hties⟩ :=
    planner.exists_renumbers_settled hids hsame hperm
  have hblocks : ((planner.placed (.ofStatements ss)).2.map Warning.bare).Perm
      ((planner.placed (.ofStatements ss')).2.map Warning.bare) := by
    rw [placed, placed, Document.warnings_place, Document.warnings_place]
    exact Document.warnings_perm planner.catalog hsame hperm
  have hcomponents : (planner.plan (.ofStatements ss)).components.Perm
      (planner.plan (.ofStatements ss')).components := by
    rw [components_plan, components_plan]
    exact hsettled.components (planner.isNested_settled _)
  -- No identifier occurs twice, so the last component with one is the only one.
  have hcomponentIds :
      ((planner.plan (.ofStatements ss)).components.map Component.id).Nodup := by
    rw [components_plan, List.map_map]
    exact hnodup
  have hplaces (id : String) : (planner.plan (.ofStatements ss)).places.get? id =
      (planner.plan (.ofStatements ss')).places.get? id := by
    rw [places_plan, places_plan, ← lastIndex_settled, ← lastIndex_settled]
    exact (hsettled.get?_placesOf_eq (Forest.indexes_lastIndex _) (Forest.indexes_lastIndex _)
      (hget id)).symm
  have hstates :
      SameStates (Document.ofStatements ss).states (Document.ofStatements ss').states := by
    rw [Document.ofStatements_eq, Document.ofStatements_eq]
    exact hsame
  have hrouted : (Document.ofStatements ss).connections.map Connection.bare =
      (Document.ofStatements ss').connections.map Connection.bare := by
    rw [Document.ofStatements_eq, Document.ofStatements_eq]
    exact hconnections
  obtain ⟨hcanvas, hcanvasWarnings⟩ := planner.canvasOf_congr hstates
  obtain ⟨harrows, harrowWarnings⟩ := planner.foldl_connect_congr hplaces hrouted
  exact
    { canvas := by rw [canvas_plan, canvas_plan, hcanvas]
      components := hcomponents
      component? := fun id =>
        find?_eq_of_perm
          (((List.reverse_perm _).trans hcomponents).trans (List.reverse_perm _).symm)
          (by rwa [List.map_reverse, List.nodup_reverse]) id
      places := hplaces
      arrows := by rw [arrows_plan_eq_foldl, arrows_plan_eq_foldl, harrows]
      findings := by
        refine map_finding_perm ?_
        rw [warnings_plan_eq_foldl, warnings_plan_eq_foldl]
        simp only [List.map_append]
        rw [hcanvasWarnings, harrowWarnings]
        exact ((hblocks.append_left _).append hties).append_right _ }

end Planner

end BoxArrow
