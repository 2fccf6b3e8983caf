import BoxArrow.Proofs.Layout.Connections
import BoxArrow.Proofs.Layout.Geometry
import BoxArrow.Proofs.Layout.Unmentioned

/-!
# The components of a layout, and how they are found

A layout lists a component for each declaration, a container before its members. An identifier that
is declared more than once stands for the last one of its components, wherever it is looked up:
among the components, in the map of places, as the target of a reference, and at the end of an
arrow.

## Main definitions

* `Declaration.nested` — the declarations of a document, with their containers
* `Component.frame`, `Catalog.frameOf` — what a component shows of its declaration
* `Planner.StandsFor` — an identifier stands for a component of a layout

## Main results

* `Planner.map_frame_components` — the components of a layout are those of the declarations
* `Planner.exists_standsFor` — a declared identifier stands for a component
* `Planner.plan_lookup` — both together, with the map of places
-/

namespace BoxArrow

/-- Declarations with all that is inside them, a container before its members, each with the
identifier of the container that it is in. -/
def Declaration.nested (container : Option String) :
    List Declaration → List (Declaration × Option String)
  | [] => []
  | d@{ children, .. } :: declarations =>
    (d, container) :: (nested (some d.name) children ++ nested container declarations)

theorem Declaration.nested_cons (container : Option String) (d : Declaration)
    (declarations : List Declaration) :
    nested container (d :: declarations) =
      (d, container) :: (nested (some d.name) d.children ++ nested container declarations) := by
  cases d
  rw [nested]

theorem Declaration.length_nested (declarations : List Declaration) :
    ∀ container, (nested container declarations).length = count declarations := by
  induction declarations using Declaration.forest_induction with
  | nil =>
    intro container
    rw [nested, count]
    rfl
  | cons d declarations ihchildren ih =>
    intro container
    have hcount : count (d :: declarations) = 1 + count d.children + count declarations := by
      cases d
      rw [count]
    rw [nested_cons, List.length_cons, List.length_append, ihchildren, ih, hcount]
    omega

/-- What a component shows of its declaration: its identifier, type and depth, and the identifier of
its container. -/
def Component.frame (component : Component) : String × String × Nat × Option String :=
  (component.id, component.typeTag, component.depth, component.parent)

/-- What the component of a declaration in a container shows of it. Its type is the one that is
declared, or else the tag of the type that the catalog has for it. -/
def Catalog.frameOf (catalog : Catalog) (nested : Declaration × Option String) :
    String × String × Nat × Option String :=
  (nested.1.name,
    nested.1.typeName.getD (catalog.typeFor nested.1.typeName nested.1.isContainer).tag,
    nested.1.depth, nested.2)

namespace Forest

/-- What a row shows of the declaration of its figure. -/
def frameOfRow (row : Figure × Option String) : String × String × Nat × Option String :=
  (row.1.id, row.1.typeTag, row.1.depth, row.2)

theorem map_frameOfRow_rowsOf (catalog : Catalog) (declarations : List Declaration) :
    ∀ area, (rowsOf catalog area declarations).map frameOfRow =
      (Declaration.nested (area.map Prod.fst) declarations).map catalog.frameOf := by
  induction declarations using Declaration.forest_induction with
  | nil =>
    intro area
    rw [rowsOf, Declaration.nested]
    rfl
  | cons d declarations ihchildren ih =>
    intro area
    have hrow : frameOfRow ((putInto area (Figure.ofDeclaration catalog none d).1).alone,
        area.map Prod.fst) = catalog.frameOf (d, area.map Prod.fst) := by
      rw [← Figure.reframe_ofDeclaration]
      cases area <;> rfl
    rw [rowsOf_cons, Declaration.nested_cons, List.map_cons, List.map_cons, List.map_append,
      List.map_append, ihchildren, ih, hrow]
    rfl

/-- The components of a forest show the same of their declarations wherever the boxes are. -/
theorem map_frame_withBoxes (forest : Forest) (boxes : Nat → Box) :
    ((forest.withBoxes boxes).map (Planner.component (forest.withBoxes boxes))).map
      Component.frame = forest.rows.map frameOfRow := by
  have hparent (parent : Option Nat) :
      (parent.bind fun p => (forest.withBoxes boxes)[p]?.map Figure.id) =
        (forest.areaOf parent).map Prod.fst := by
    cases parent with
    | none => rfl
    | some p =>
      rw [areaOf, Option.bind_some, Option.bind_some, getElem?_withBoxes, Option.map_map,
        Option.map_map]
      rfl
  refine List.ext_getElem? fun i => ?_
  unfold rows
  simp only [List.getElem?_map, getElem?_withBoxes, Option.map_map]
  refine congrArg (Option.map · forest[i]?) (funext fun figure => ?_)
  change (figure.id, figure.typeTag, figure.depth, figure.parent.bind _) = frameOfRow _
  rw [hparent]
  rfl

end Forest

namespace Route

variable (start stop : Point) (source target : Anchor) (padding : Float32)

@[simp] theorem start_between : (between start source stop target padding).start = start := by
  unfold between
  split
  · rfl
  · dsimp only
    split <;> rfl

@[simp] theorem stop_between : (between start source stop target padding).stop = stop := by
  unfold between
  split
  · rfl
  · dsimp only
    split <;> rfl

end Route

namespace Planner

variable (planner : Planner) (document : Document)

/-- The components of a layout are those of the declarations, a container before its members. -/
theorem map_frame_components :
    (planner.plan document).components.map Component.frame =
      (Declaration.nested none document.declarations).map planner.catalog.frameOf := by
  obtain ⟨boxes, hboxes⟩ := planner.exists_settled_eq_withBoxes document
  have hrows := (Forest.rows_place planner.catalog document.declarations none ([], [])
    Forest.isNested_nil (fun _ hp => nomatch hp)).1
  rw [components_plan, hboxes, Forest.map_frame_withBoxes, placed, hrows, List.map_append,
    Forest.map_frameOfRow_rowsOf]
  rfl

theorem length_components : (planner.plan document).components.length = document.count := by
  have hlength := congrArg List.length (planner.map_frame_components document)
  rwa [List.length_map, List.length_map, Declaration.length_nested] at hlength

/-- The places are kept under the declared identifiers, in the order of their first declarations. -/
theorem keys_places :
    (planner.plan document).places.keys = (Declaration.names document.declarations).eraseDups := by
  rw [places_plan, Forest.placesOf_eq_mapValues, OrderedMap.keys_mapValues, Forest.keys_lastIndex,
    placed, Forest.map_id_place]
  rw [← lastIndex_settled]
  exact Forest.indexes_lastIndex _

variable {document} {id : String} {i : Nat} {arrow : Arrow}

theorem getElem?_names (j : Nat) :
    (Declaration.names document.declarations)[j]? =
      (planner.placed document).1[j]?.map Figure.id := by
  rw [← Forest.map_id_place planner.catalog, List.getElem?_map]
  rfl

/-- The place of an identifier is the box of its component. -/
theorem get?_places_eq_map_component? (id : String) :
    (planner.plan document).places.get? id =
      ((planner.plan document).component? id).map Component.box := by
  rw [get?_places, component?_plan]
  cases hget : (planner.placed document).1.lastIndex.get? id with
  | none => rfl
  | some i =>
    rw [← lastIndex_settled] at hget
    obtain ⟨figure, hi, -⟩ := Forest.getElem?_of_get?_lastIndex hget
    rw [Option.map_some, Option.bind_some, Forest.boxOf, hi]
    rfl

/-- An arrow leads between its anchors on the places of its two ends. -/
theorem exists_of_mem_arrows (h : arrow ∈ (planner.plan document).arrows) :
    ∃ box box', (planner.plan document).places.get? arrow.source = some box ∧
      (planner.plan document).places.get? arrow.target = some box' ∧
      arrow.route = Route.between (arrow.sourceAnchor.placeOn box) arrow.sourceAnchor
        (arrow.targetAnchor.placeOn box') arrow.targetAnchor planner.padding := by
  rw [arrows_plan] at h
  obtain ⟨k, hk, rfl⟩ := List.mem_mapIdx.1 h
  have hrouted := (List.mem_filter.1 (List.getElem_mem hk)).2
  rw [isRouted, Bool.and_eq_true] at hrouted
  obtain ⟨box, hbox⟩ := Option.isSome_iff_exists.1 hrouted.1
  obtain ⟨box', hbox'⟩ := Option.isSome_iff_exists.1 hrouted.2
  refine ⟨box, box', hbox, hbox', ?_⟩
  unfold arrowFor
  dsimp only
  rw [hbox, hbox']
  rfl

variable (document)

/-- An identifier stands for the component at a position: wherever it is looked up, this component
is found. -/
structure StandsFor (id : String) (i : Nat) (component : Component) : Prop where
  /-- It is the component of the last declaration of the identifier. -/
  isLast : (Declaration.names document.declarations)[i]? = some id ∧
    ∀ j : Nat, (Declaration.names document.declarations)[j]? = some id → j ≤ i
  getElem?_components : (planner.plan document).components[i]? = some component
  component? : (planner.plan document).component? id = some component
  get?_places : (planner.plan document).places.get? id = some component.box
  /-- In every pass over an axis, each reference that asks for the identifier is followed to it. -/
  tie? : ∀ passes axis k reference alignment,
    let placed := (planner.placed document).1
    placed.referenceOf axis k = some reference → reference.Asks axis id alignment →
      Forest.tie? ((Forest.afterPasses placed.lastIndex placed passes).ties axis
        placed.lastIndex) k = some ⟨i, alignment⟩
  start_of_mem_arrows : ∀ arrow ∈ (planner.plan document).arrows, arrow.source = id →
    arrow.route.start = arrow.sourceAnchor.placeOn component.box
  stop_of_mem_arrows : ∀ arrow ∈ (planner.plan document).arrows, arrow.target = id →
    arrow.route.stop = arrow.targetAnchor.placeOn component.box

variable {document}

/-- A reference that asks for an identifier is followed to the last figure with it, also after
passes, which change no more than the boxes. -/
theorem tie?_of_asks {placed : Forest} (hnested : placed.IsNested) (hlast : placed.IsLast id i)
    (passes : List Axis) {axis : Axis} {k : Nat} {reference : Reference} {alignment : Alignment}
    (hreference : placed.referenceOf axis k = some reference)
    (hasks : reference.Asks axis id alignment) :
    Forest.tie? ((Forest.afterPasses placed.lastIndex placed passes).ties axis
      placed.lastIndex) k = some ⟨i, alignment⟩ := by
  obtain ⟨boxes, hboxes⟩ :=
    Forest.afterPasses_eq_withBoxes hnested (Forest.indexes_lastIndex placed) passes
  have hsame : (placed.withBoxes boxes).referenceOf axis k = some reference := by
    rw [← hreference, Forest.referenceOf, Forest.referenceOf, Forest.getElem?_withBoxes,
      Option.bind_map]
    cases axis <;> rfl
  rw [hboxes, Forest.tie?_ties_of_referenceOf hsame, Forest.ofReference_lastIndex hasks hlast]
  rfl

/-- A declared identifier stands for the component of its last declaration. -/
theorem exists_standsFor (h : document.Declares id) :
    ∃ i component, planner.StandsFor document id i component := by
  rw [← contains_places_iff planner, OrderedMap.contains, get?_places, Option.isSome_map,
    Option.isSome_iff_exists] at h
  obtain ⟨i, hi⟩ := h
  -- The index is that of the forest before any pass. It is the same after all passes, since a pass
  -- changes no identifier.
  have hlast := Forest.isLast_of_get?_lastIndex hi
  have hsettled := hi
  rw [← lastIndex_settled] at hsettled
  obtain ⟨figure, hfigure, -⟩ := Forest.getElem?_of_get?_lastIndex hsettled
  have hcomponent : (planner.plan document).component? id =
      some (component (planner.settled document).1 figure) := by
    rw [component?_plan, hi, Option.bind_some, hfigure, Option.map_some]
  have hplace : (planner.plan document).places.get? id = some figure.box := by
    rw [get?_places_eq_map_component?, hcomponent]
    rfl
  refine ⟨i, component (planner.settled document).1 figure, ⟨?_, ?_⟩, ?_, hcomponent, hplace,
    ?_, ?_, ?_⟩
  · obtain ⟨first, hget, hid⟩ := hlast.1
    rw [planner.getElem?_names, hget, ← hid]
    rfl
  · intro j hj
    rw [planner.getElem?_names, Option.map_eq_some_iff] at hj
    obtain ⟨other, hget, hid⟩ := hj
    exact hlast.2 j other hget hid
  · rw [components_plan, List.getElem?_map, hfigure]
    rfl
  · intro passes axis k reference alignment placed hreference hasks
    exact tie?_of_asks (Forest.isNested_place ..) hlast passes hreference hasks
  · rintro arrow harrow rfl
    obtain ⟨box, box', hbox, -, hroute⟩ := planner.exists_of_mem_arrows harrow
    cases hbox.symm.trans hplace
    rw [hroute, Route.start_between]
    rfl
  · rintro arrow harrow rfl
    obtain ⟨box, box', -, hbox', hroute⟩ := planner.exists_of_mem_arrows harrow
    cases hbox'.symm.trans hplace
    rw [hroute, Route.stop_between]
    rfl

variable (document)

/-- The components of a layout are those of the declarations, a container before its members, and
the places are those of the last component with each identifier, which is also the one that
references and arrows lead to. -/
theorem plan_lookup :
    (planner.plan document).components.map Component.frame =
      (Declaration.nested none document.declarations).map planner.catalog.frameOf ∧
    (planner.plan document).components.length = document.count ∧
    (planner.plan document).places.keys = (Declaration.names document.declarations).eraseDups ∧
    (planner.plan document).places.keys.Nodup ∧
    (∀ id, (planner.plan document).places.get? id =
      ((planner.plan document).component? id).map Component.box) ∧
    ∀ id, document.Declares id → ∃ i component, planner.StandsFor document id i component := by
  refine ⟨planner.map_frame_components document, planner.length_components document,
    planner.keys_places document, ?_, planner.get?_places_eq_map_component?, ?_⟩
  · exact (planner.plan document).places.nodup
  · exact fun id h => planner.exists_standsFor h

end Planner

end BoxArrow
