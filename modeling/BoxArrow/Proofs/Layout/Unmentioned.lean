import BoxArrow.Proofs.Layout.Insertion
import BoxArrow.Proofs.Layout.Warnings

/-!
# Components that nothing mentions

A component may be put into a document, with members and with references to what is there. If
nothing else has its identifiers, leads to it or refers to it, then the rest of the layout stays as
it is, although the figures behind it have other positions and the ties are fulfilled in another
order.

## Main definitions

* `Document.Mentions` — a document declares an identifier, connects it or refers to it
* `Declaration.Warns` — a warning is about a component

## Main results

* `Forest.Gains.followsAlike` — what refers to none of the new figures is followed as before
* `Forest.Gains.filter_components`, `Forest.Gains.filter_placesOf` — without the new ones, the
  components and the places are those before
* `Planner.plan_insert` — a component that nothing mentions changes nothing but itself
-/

namespace BoxArrow

/-- A document mentions an identifier: a component has it, a connection leads from it or to it, or
a component refers to it. -/
inductive Document.Mentions (catalog : Catalog) (document : Document) (id : String) : Prop
  | declared : document.Declares id → Mentions catalog document id
  | connected {c : Connection} : c ∈ document.connections → c.source = id ∨ c.target = id →
      Mentions catalog document id
  | target {d : Declaration} {axis : Axis} {reference : Reference} {alignment : Alignment} :
      document.Contains d →
        (Figure.ofDeclaration catalog none d).1.reference axis = some reference →
          reference.Asks axis id alignment → Mentions catalog document id

/-- A warning is about a component: about a block of it, or about a reference of it that is refused
or part of a cycle. -/
inductive Declaration.Warns (catalog : Catalog) (index : OrderedMap Nat) (d : Declaration) :
    Warning → Prop
  | block {w : Warning} : w ∈ (Figure.ofDeclaration catalog none d).2 → Warns catalog index d w
  | refused {axis : Axis} {reference : Reference} {w : Warning} :
      (Figure.ofDeclaration catalog none d).1.reference axis = some reference →
        Tie.ofReference axis index reference = .error w → Warns catalog index d w
  | cyclic {axis : Axis} {reference : Reference} :
      (Figure.ofDeclaration catalog none d).1.reference axis = some reference →
        Warns catalog index d (.cyclicReference axis d.name reference.block)

namespace Forest

/-- Without the elements that are put in, a list is the one before. -/
theorem filter_eq_of_skip {α : Type} {p : α → Bool} {list list' : List α} (position count : Nat)
    (hlength : list'.length = list.length + count) (hposition : position ≤ list.length)
    (hkept : ∀ i < list.length, list'[skip position count i]? = list[i]?)
    (hold : ∀ a ∈ list, p a = true)
    (hnew : ∀ i ∈ List.range' position count, ∀ a, list'[i]? = some a → p a = false) :
    list'.filter p = list := by
  -- The longer list is what is before the new items, the items themselves, and what is behind.
  have hbefore : list'.take position = list.take position := by
    refine List.ext_getElem? fun i => ?_
    rw [List.getElem?_take, List.getElem?_take]
    split
    · rename_i hi
      rw [← hkept i (Nat.lt_of_lt_of_le hi hposition), skip_of_lt hi]
    · rfl
  have hafter : (list'.drop position).drop count = list.drop position := by
    refine List.ext_getElem? fun i => ?_
    rw [List.drop_drop, List.getElem?_drop, List.getElem?_drop]
    by_cases hi : position + i < list.length
    · rw [← hkept _ hi, skip_of_le (Nat.le_add_right _ i), Nat.add_right_comm]
    · rw [List.getElem?_eq_none (by omega), List.getElem?_eq_none (by omega)]
  have hbetween : ((list'.drop position).take count).filter p = [] := by
    rw [List.filter_eq_nil_iff]
    intro a ha
    obtain ⟨i, hi⟩ := List.mem_iff_getElem?.1 ha
    rw [List.getElem?_take, Option.ite_none_right_eq_some, List.getElem?_drop] at hi
    have hmem : position + i ∈ List.range' position count := by
      rw [List.mem_range'_1]
      omega
    rw [hnew _ hmem a hi.2]
    exact Bool.false_ne_true
  calc list'.filter p
      = (list'.take position ++ ((list'.drop position).take count ++
          (list'.drop position).drop count)).filter p := by
        rw [List.take_append_drop, List.take_append_drop]
    _ = (list.take position ++ list.drop position).filter p := by
        rw [List.filter_append, List.filter_append, hbetween, hbefore, hafter, List.nil_append,
          ← List.filter_append]
    _ = list := by
        rw [List.take_append_drop, List.filter_eq_self.2 hold]

/-- The identifiers in the index stand in the order in which they first occur. -/
theorem keys_lastIndex (forest : Forest) :
    forest.lastIndex.keys = (forest.map Figure.id).eraseDups := by
  rw [lastIndex, OrderedMap.keys_ofList, List.zipIdx_map_fst]

theorem keys_filter_lastIndex (forest : Forest) (p : String → Bool) :
    (forest.lastIndex.filter p).keys = ((forest.map Figure.id).filter p).eraseDups := by
  rw [lastIndex, OrderedMap.filter_ofList, OrderedMap.keys_ofList]
  conv_rhs => rw [← List.zipIdx_map_fst 0 (forest.map Figure.id), List.filter_map]
  rfl

namespace Gains

variable {catalog : Catalog} {added : Declaration} {position i : Nat} {forest forest' : Forest}
  {figure : Figure}

section Basic

variable (h : Gains catalog added position forest forest')
include h

theorem length_eq : forest'.length = forest.length + (Declaration.all [added]).length := by
  have hlength := h.embeds.perm_range.length_eq
  rw [List.length_append, List.length_map, List.length_range, List.length_range',
    List.length_range] at hlength
  exact hlength.symm

theorem id_mem_names (hi : i ∈ List.range' position (Declaration.all [added]).length)
    (hfigure : forest'[i]? = some figure) : figure.id ∈ Declaration.names [added] := by
  obtain ⟨d, hd, hsignature⟩ := h.exists_declaration i hi figure hfigure
  have hid : figure.id = (Figure.ofDeclaration catalog none d).1.id :=
    congrArg Prod.fst hsignature
  rw [Declaration.names_eq_map_all, hid, Figure.id_ofDeclaration]
  exact List.mem_map_of_mem hd

/-- Other identifiers are found where their figures are now. -/
theorem get?_lastIndex {name : String} (hname : name ∉ Declaration.names [added]) :
    forest'.lastIndex.get? name =
      (forest.lastIndex.get? name).map (skip position (Declaration.all [added]).length) :=
  h.embeds.get?_lastIndex (fun _ _ hle => skip_le_skip hle _ _) fun _ hi _ hfigure heq =>
    hname (heq ▸ h.id_mem_names hi hfigure)

/-- References to other figures are followed as before. -/
theorem followsAlike
    (hasks : ∀ axis i reference target alignment, forest.referenceOf axis i = some reference →
      reference.Asks axis target alignment → target ∉ Declaration.names [added]) :
    FollowsAlike (skip position (Declaration.all [added]).length) forest forest.lastIndex
      forest'.lastIndex :=
  fun axis i reference hreference => Tie.ofReference_renumber fun target alignment htarget =>
    h.get?_lastIndex (hasks axis i reference target alignment hreference htarget)

/-- With other boxes, a forest gains the same figures. -/
theorem withBoxes {boxes boxes' : Nat → Box}
    (hembeds : Embeds id (skip position (Declaration.all [added]).length)
      (List.range' position (Declaration.all [added]).length) (forest.withBoxes boxes)
      (forest'.withBoxes boxes')) :
    Gains catalog added position (forest.withBoxes boxes) (forest'.withBoxes boxes') where
  embeds := hembeds
  position_le := by
    rw [length_withBoxes]
    exact h.position_le
  exists_declaration i hi figure hfigure := by
    rw [getElem?_withBoxes, Option.map_eq_some_iff] at hfigure
    obtain ⟨old, hold, rfl⟩ := hfigure
    exact h.exists_declaration i hi old hold

end Basic

section Filter

variable (h : Gains catalog added position forest forest')
  (hnew : ∀ figure ∈ forest, figure.id ∉ Declaration.names [added])
include h hnew

/-- What is read off the figures is what was read off them before, besides the new ones. -/
theorem filter_map {α : Type} (idOf : α → String) {read read' : Figure → α}
    (hid : ∀ figure, idOf (read figure) = figure.id)
    (hid' : ∀ figure, idOf (read' figure) = figure.id)
    (hkept : ∀ i < forest.length,
      forest'[skip position (Declaration.all [added]).length i]?.map read' = forest[i]?.map read) :
    (forest'.map read').filter (fun a => idOf a ∉ Declaration.names [added]) = forest.map read := by
  refine filter_eq_of_skip position (Declaration.all [added]).length ?_ ?_ ?_ ?_ ?_
  · rw [List.length_map, List.length_map, h.length_eq]
  · rw [List.length_map]
    exact h.position_le
  · intro i hi
    rw [List.length_map] at hi
    rw [List.getElem?_map, List.getElem?_map, hkept i hi]
  · intro a ha
    obtain ⟨figure, hfigure, rfl⟩ := List.mem_map.1 ha
    rw [hid]
    exact decide_eq_true (hnew figure hfigure)
  · intro i hi a ha
    rw [List.getElem?_map] at ha
    obtain ⟨figure, hfigure, rfl⟩ := Option.map_eq_some_iff.1 ha
    rw [hid']
    exact decide_eq_false (not_not_intro (h.id_mem_names hi hfigure))

/-- Without the new components, those of the forest are the ones before. -/
theorem filter_components (hnested : forest.IsNested) :
    (forest'.map (Planner.component forest')).filter
        (fun c => c.id ∉ Declaration.names [added]) =
      forest.map (Planner.component forest) :=
  h.filter_map hnew Component.id (fun _ => rfl) (fun _ => rfl) fun _ hi =>
    h.embeds.map_component hnested hi

theorem filter_ids :
    (forest'.map Figure.id).filter (· ∉ Declaration.names [added]) = forest.map Figure.id := by
  refine h.filter_map hnew id (fun _ => rfl) (fun _ => rfl) fun i hi => ?_
  obtain ⟨figure, figure', hfigure, hfigure', hapart, -⟩ := h.embeds.figure_of_lt hi
  rw [hfigure, hfigure', Option.map_some, Option.map_some, (Figure.eq_of_apart_eq hapart).1]

/-- Without those of the new components, the places are the ones before. -/
theorem filter_placesOf :
    (Planner.placesOf forest'.lastIndex forest').filter (· ∉ Declaration.names [added]) =
      Planner.placesOf forest.lastIndex forest := by
  have hindex := indexes_lastIndex forest
  rw [placesOf_eq_mapValues hindex, placesOf_eq_mapValues (indexes_lastIndex forest'),
    ← OrderedMap.filter_mapValues]
  refine OrderedMap.ext_get? ?_ fun name => ?_
  · rw [OrderedMap.keys_mapValues, OrderedMap.keys_mapValues, keys_filter_lastIndex,
      keys_lastIndex, h.filter_ids hnew]
  · rw [OrderedMap.get?_mapValues, OrderedMap.get?_mapValues, OrderedMap.get?_filter]
    by_cases hname : name ∈ Declaration.names [added]
    · rw [if_neg (by simpa using hname), get?_lastIndex_eq_none_iff.2 fun figure hfigure heq =>
        hnew figure hfigure (heq ▸ hname)]
      rfl
    · rw [if_pos (by simpa using hname), h.get?_lastIndex hname, Option.map_map]
      exact Option.map_congr fun i hi => h.embeds.boxOf (hindex.lt_length hi)

end Filter

end Gains

end Forest

namespace Planner

variable (planner : Planner) {document : Document} {added : Declaration}
  {declarations : List Declaration}

/-- The figures of a document bear identifiers that it mentions, and refer to such. -/
theorem mentions_of_mem_placed {figure : Figure} (h : figure ∈ (planner.placed document).1) :
    document.Mentions planner.catalog figure.id ∧
      ∀ axis reference target alignment, figure.reference axis = some reference →
        reference.Asks axis target alignment → document.Mentions planner.catalog target := by
  obtain ⟨d, hd, hsignature⟩ := exists_declaration_of_mem_placed h
  obtain ⟨hid, hreference⟩ := Prod.mk.inj hsignature
  refine ⟨.declared ⟨d, hd, ?_⟩, fun axis reference target alignment hfigure hasks => ?_⟩
  · rw [hid, Figure.id_ofDeclaration]
  · exact .target hd (hreference ▸ hfigure) hasks

section Insert

variable (hinserts : added.Inserts document.declarations declarations)
  (hunmentioned : ∀ id ∈ Declaration.names [added], ¬ document.Mentions planner.catalog id)
include hinserts hunmentioned

/-- When all ties are fulfilled, the figures of the document stand as before among the new ones, and
the new warnings are about the new components. -/
theorem exists_gains_settled :
    let enlarged := { document with declarations := declarations }
    ∃ position found, Forest.Gains planner.catalog added position (planner.settled document).1
        (planner.settled enlarged).1 ∧
      (planner.settled enlarged).2.Perm ((planner.settled document).2 ++ found) ∧
      ∀ w ∈ found, ∃ d ∈ Declaration.all [added],
        d.Warns planner.catalog (planner.placed enlarged).1.lastIndex w := by
  intro enlarged
  obtain ⟨position, hgains⟩ := hinserts.exists_gains planner.catalog
  -- No figure of the document refers to a new one, so each follows the same figure as before.
  have hfollows := hgains.followsAlike fun axis i reference target alignment hreference hasks
    hmem => by
      obtain ⟨figure, hfigure, hreference⟩ := Option.bind_eq_some_iff.1 hreference
      obtain ⟨-, htargets⟩ := planner.mentions_of_mem_placed (List.mem_of_getElem? hfigure)
      exact hunmentioned target hmem (htargets axis reference target alignment hreference hasks)
  obtain ⟨boxes, boxes', found, hsettle, hsettle', hembeds, hties, hfound⟩ :=
    hgains.embeds.settle hfollows (Forest.isNested_place ..) (Forest.isNested_place ..)
      (Forest.indexes_lastIndex _) (Forest.indexes_lastIndex _)
  rw [List.map_id'' Warning.relocate_id, List.map_id'' Warning.relocate_id] at hties
  have hsettled : (planner.settled document).1 = _ := hsettle
  have hsettled' : (planner.settled enlarged).1 = _ := hsettle'
  refine ⟨position, found, ?_, hties, fun w hw => ?_⟩
  · rw [hsettled, hsettled']
    exact hgains.withBoxes hembeds
  · obtain ⟨i, hi, figure, axis, reference, hfigure, hreference, hw⟩ := hfound w hw
    obtain ⟨d, hd, hsignature⟩ := hgains.exists_declaration i hi figure hfigure
    obtain ⟨hid, hreferences⟩ := Prod.mk.inj hsignature
    rw [hreferences] at hreference
    refine ⟨d, hd, ?_⟩
    rcases hw with hrefused | rfl
    · exact .refused hreference hrefused
    · rw [hid, Figure.id_ofDeclaration]
      exact .cyclic hreference

omit hinserts in
theorem notMem_names_of_mem_settled {figure : Figure}
    (h : figure ∈ (planner.settled document).1) : figure.id ∉ Declaration.names [added] := by
  obtain ⟨boxes, hboxes⟩ := planner.exists_settled_eq_withBoxes document
  have hid := List.mem_map_of_mem (f := Figure.id) h
  rw [hboxes, Forest.map_id_withBoxes, placed, Forest.map_id_place, Document.mem_names_iff] at hid
  exact fun hmem => hunmentioned _ hmem (.declared hid)

theorem filter_components_insert :
    (planner.plan { document with declarations := declarations }).components.filter
        (fun c => c.id ∉ Declaration.names [added]) =
      (planner.plan document).components := by
  obtain ⟨position, -, hgains, -⟩ := planner.exists_gains_settled hinserts hunmentioned
  rw [components_plan, components_plan]
  exact hgains.filter_components
    (fun _ => planner.notMem_names_of_mem_settled hunmentioned) (planner.isNested_settled document)

theorem filter_places_insert :
    (planner.plan { document with declarations := declarations }).places.filter
        (· ∉ Declaration.names [added]) =
      (planner.plan document).places := by
  obtain ⟨position, -, hgains, -⟩ := planner.exists_gains_settled hinserts hunmentioned
  rw [places_plan, places_plan, ← lastIndex_settled, ← lastIndex_settled]
  exact hgains.filter_placesOf fun _ => planner.notMem_names_of_mem_settled hunmentioned

/-- Both ends of a connection have the places that they had, so it is routed as it was. -/
theorem foldl_connect_insert :
    document.connections.foldl (planner.connect
        (planner.plan { document with declarations := declarations }).places) ([], []) =
      document.connections.foldl (planner.connect (planner.plan document).places) ([], []) := by
  have hend : ∀ id, id ∉ Declaration.names [added] →
      (planner.plan { document with declarations := declarations }).places.get? id =
        (planner.plan document).places.get? id := by
    intro id hid
    rw [← planner.filter_places_insert hinserts hunmentioned, OrderedMap.get?_filter,
      if_pos (by simpa using hid)]
  refine List.foldl_ext _ _ _ fun result c hc => planner.connect_congr ?_ ?_ result
  · exact hend _ fun hmem => hunmentioned _ hmem (.connected hc (.inl rfl))
  · exact hend _ fun hmem => hunmentioned _ hmem (.connected hc (.inr rfl))

/-- The warnings are those before and some about the new components. -/
theorem exists_warnings_insert :
    let enlarged := { document with declarations := declarations }
    ∃ found, (planner.plan enlarged).warnings.Perm ((planner.plan document).warnings ++ found) ∧
      ∀ w ∈ found, ∃ d ∈ Declaration.all [added],
        d.Warns planner.catalog (planner.placed enlarged).1.lastIndex w := by
  intro enlarged
  obtain ⟨-, found, -, hties, hfound⟩ := planner.exists_gains_settled hinserts hunmentioned
  refine ⟨Forest.warningsOf planner.catalog [added] ++ found, ?_, fun w hw => ?_⟩
  · have hblocks : (planner.placed enlarged).2.Perm
        ((planner.placed document).2 ++ Forest.warningsOf planner.catalog [added]) := by
      rw [placed, placed, Forest.warnings_place, Forest.warnings_place]
      exact hinserts.warningsOf_perm planner.catalog
    -- Each phase gives the new warnings behind those before; they go behind those of all phases.
    have hphases : ((planner.canvasOf document).2 ++ (planner.placed enlarged).2 ++
        (planner.settled enlarged).2).Perm ((planner.canvasOf document).2 ++
          (planner.placed document).2 ++ (planner.settled document).2 ++
            (Forest.warningsOf planner.catalog [added] ++ found)) := by
      refine ((hblocks.append_left _).append hties).trans ?_
      rw [← List.append_assoc (planner.canvasOf document).2]
      exact append_append_perm _ _ _ _
    have hlast := append_append_perm ((planner.canvasOf document).2 ++
      (planner.placed document).2 ++ (planner.settled document).2)
      (Forest.warningsOf planner.catalog [added] ++ found)
      (document.connections.foldl (planner.connect (planner.plan document).places) ([], [])).2 []
    rw [List.append_nil, List.append_nil] at hlast
    rw [warnings_plan_eq_foldl, warnings_plan_eq_foldl,
      planner.foldl_connect_insert hinserts hunmentioned]
    exact (hphases.append_right _).trans hlast
  · rcases List.mem_append.1 hw with hw | hw
    · rw [Forest.warningsOf_eq_flatMap] at hw
      obtain ⟨d, hd, hw⟩ := List.mem_flatMap.1 hw
      exact ⟨d, hd, .block hw⟩
    · exact hfound w hw

end Insert

/-- A component that nothing mentions, put in anywhere among the components of a document, alone or
with members, changes nothing but itself: all other components, their places, the canvas and the
arrows stay as they are, and the warnings are those before and some about the new components. -/
theorem plan_insert (hinserts : added.Inserts document.declarations declarations)
    (hunmentioned : ∀ id ∈ Declaration.names [added], ¬ document.Mentions planner.catalog id) :
    let enlarged := { document with declarations := declarations }
    let layout := planner.plan document
    let layout' := planner.plan enlarged
    layout'.canvas = layout.canvas ∧
      layout'.components.filter (fun c => c.id ∉ Declaration.names [added]) =
        layout.components ∧
      layout'.places.filter (· ∉ Declaration.names [added]) = layout.places ∧
      layout'.arrows = layout.arrows ∧
      ∃ found, layout'.warnings.Perm (layout.warnings ++ found) ∧
        ∀ w ∈ found, ∃ d ∈ Declaration.all [added],
          d.Warns planner.catalog (planner.placed enlarged).1.lastIndex w := by
  intro enlarged layout layout'
  refine ⟨?canvas, ?components, ?places, ?arrows, ?warnings⟩
  case canvas =>
    rw [canvas_plan, canvas_plan]
    rfl
  case components => exact planner.filter_components_insert hinserts hunmentioned
  case places => exact planner.filter_places_insert hinserts hunmentioned
  case arrows =>
    rw [arrows_plan_eq_foldl, arrows_plan_eq_foldl,
      planner.foldl_connect_insert hinserts hunmentioned]
  case warnings => exact planner.exists_warnings_insert hinserts hunmentioned

/-- The component `n` put before `b` into a container, where it refers to `b`, which is tied to
`a`. -/
theorem plan_insert_before_member :
    let block : StateDeclaration := ⟨"b", "x:&a.r", ⟨20, 30⟩⟩
    let own : StateDeclaration := ⟨"n", "x:&b.l", ⟨40, 50⟩⟩
    let a : Declaration := ⟨"a", none, none, ⟨0, 1⟩, 0, false, .empty, []⟩
    let b : Declaration := ⟨"b", none, none, ⟨5, 6⟩, 1, false, .ofList [("b", block)], []⟩
    let n : Declaration := ⟨"n", none, none, ⟨3, 4⟩, 1, false, .ofList [("n", own)], []⟩
    let c : Declaration := ⟨"c", none, none, ⟨2, 3⟩, 0, true, .empty, [b]⟩
    let arrow : Connection := ⟨"a", .ofText "", "b", .ofText "", "", ⟨10, 15⟩⟩
    let document : Document := ⟨[a, c], .ofList [("b", block)], [arrow]⟩
    let declarations : List Declaration := [a, { c with children := [n, b] }]
    n.Inserts document.declarations declarations ∧
      (∀ id ∈ Declaration.names [n], ¬ document.Mentions standard.catalog id) ∧
      (standard.plan { document with declarations := declarations }).places.filter
          (· ∉ Declaration.names [n]) = (standard.plan document).places := by
  intro block own a b n c arrow document declarations
  have hinserts : n.Inserts document.declarations declarations :=
    .later a (.inside c [] (.here [b]))
  have hunmentioned : ∀ id ∈ Declaration.names [n], ¬ document.Mentions standard.catalog id := by
    intro id hid hmentions
    obtain rfl : id = "n" := by simpa [n, Declaration.names] using hid
    cases hmentions with
    | declared h =>
      rw [← Document.mem_names_iff] at h
      simp [document, c, a, b, Declaration.names] at h
    | connected hc hend =>
      cases List.mem_singleton.1 hc
      exact absurd hend (by decide)
    | @target d axis reference alignment hd hreference hasks =>
      -- The only reference is that of `b`, which asks for `a`.
      have hall : Declaration.all document.declarations = [a, c, b] := by
        simp [document, a, b, c, Declaration.all]
      rw [Document.contains_iff_mem_all, hall] at hd
      have hfree (axis : Axis) : (Figure.ofDeclaration standard.catalog none a).1.reference axis =
          none ∧ (Figure.ofDeclaration standard.catalog none c).1.reference axis = none := by
        cases axis <;> decide +kernel
      have hb : (Figure.ofDeclaration standard.catalog none b).1.reference .horizontal =
          some ⟨"a.r", ⟨20, 30⟩⟩ ∧
          (Figure.ofDeclaration standard.catalog none b).1.reference .vertical = none := by
        decide +kernel
      have ha : (⟨"a.r", ⟨20, 30⟩⟩ : Reference).Asks .horizontal "a" .stop :=
        ⟨by decide, "r", by decide, by decide, by decide⟩
      obtain rfl | rfl | rfl : d = a ∨ d = c ∨ d = b := by
        simpa only [List.mem_cons, List.not_mem_nil, or_false] using hd
      · cases (hfree axis).1.symm.trans hreference
      · cases (hfree axis).2.symm.trans hreference
      · cases axis with
        | horizontal =>
          cases hb.1.symm.trans hreference
          exact absurd (Tie.asks_unique ha hasks).1 (by decide)
        | vertical => cases hb.2.symm.trans hreference
  exact ⟨hinserts, hunmentioned, (plan_insert standard hinserts hunmentioned).2.2.1⟩

end Planner

end BoxArrow
