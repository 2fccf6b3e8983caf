import BoxArrow.Proofs.Layout.Placement

/-!
# Components and places of forests that correspond

When a layout is done, each figure becomes a component, and the index of the figures with their
boxes is the map of places. Figures that correspond become the same component at the same place,
whatever their positions are.

## Main results

* `Forest.Embeds.map_component` — figures that correspond become the same component
* `Forest.placesOf_eq_mapValues` — the places are the index with the boxes of the figures
* `Forest.Embeds.get?_placesOf_eq` — figures that correspond have the same places
-/

namespace BoxArrow

namespace Forest

variable {f : Span → Span} {σ : Nat → Nat} {extra : List Nat} {forest forest' : Forest}
  {index index' : OrderedMap Nat} {i : Nat}

/-- Figures that correspond become the same component. -/
theorem Embeds.map_component (h : Embeds f σ extra forest forest') (hnested : forest.IsNested)
    (hi : i < forest.length) :
    forest'[σ i]?.map (Planner.component forest') = forest[i]?.map (Planner.component forest) := by
  obtain ⟨figure, figure', hfigure, hfigure', hapart, hparent⟩ := h.figure_of_lt hi
  rw [hfigure, hfigure', Option.map_some, Option.map_some]
  obtain ⟨hid, htype, hdepth, hbox, hrecord⟩ := Figure.eq_of_apart_eq hapart
  have hcontainer : (figure'.parent.bind fun p => forest'[p]?.map Figure.id) =
      figure.parent.bind fun p => forest[p]?.map Figure.id := by
    rw [hparent]
    cases hp : figure.parent with
    | none => rfl
    | some p =>
      have hlt := hnested.lt_length_of_parent hfigure p hp
      obtain ⟨container, container', hget, hget', hsame, -⟩ := h.figure_of_lt hlt
      rw [Option.map_some, Option.bind_some, Option.bind_some, hget, hget']
      exact congrArg some (Figure.eq_of_apart_eq hsame).1
  unfold Planner.component
  rw [hcontainer, hid, htype, hdepth, hbox, hrecord]

/-- Forests of the same figures become the same components. -/
theorem Embeds.components (h : Embeds f σ [] forest forest') (hnested : forest.IsNested) :
    (forest.map (Planner.component forest)).Perm (forest'.map (Planner.component forest')) := by
  -- Both lists are read off the positions, and the positions of the one are those of the other.
  have hrange : ∀ forest : Forest, forest.map (Planner.component forest) =
      (List.range forest.length).filterMap fun i =>
        forest[i]?.map (Planner.component forest) := by
    intro forest
    simp only [Option.map_eq_bind]
    rw [filterMap_range_getElem?, ← List.filterMap_eq_map]
  rw [hrange, hrange]
  refine List.Perm.trans (.of_eq ?_) (h.perm_range.filterMap _)
  rw [List.append_nil, List.filterMap_map]
  exact List.filterMap_congr fun i hi => (h.map_component hnested (List.mem_range.1 hi)).symm

/-- The index with the boxes of the figures that it finds. -/
theorem placesOf_eq_mapValues (hindex : forest.Indexes index) :
    Planner.placesOf index forest = index.mapValues forest.boxOf := by
  have hmap : (index.entries.filterMap fun entry => forest[entry.2]?.map fun figure =>
      (entry.1, figure.box)) = index.entries.map (Prod.map id forest.boxOf) := by
    rw [← List.filterMap_eq_map]
    refine List.filterMap_congr fun entry hentry => ?_
    have hlt := hindex.lt_length (OrderedMap.get?_of_mem hentry)
    change _ = some (entry.1, ((forest[entry.2]?.map Figure.box).getD default))
    rw [List.getElem?_eq_getElem hlt]
    rfl
  rw [Planner.placesOf, hmap]
  exact OrderedMap.ext (OrderedMap.entries_ofList (index.mapValues forest.boxOf).nodup)

/-- The places of the components with each identifier. -/
theorem get?_placesOf (hindex : forest.Indexes index) (id : String) :
    (Planner.placesOf index forest).get? id = (index.get? id).map forest.boxOf := by
  rw [placesOf_eq_mapValues hindex, OrderedMap.get?_mapValues]

/-- An identifier that is found in the renumbered position has the same place. -/
theorem Embeds.get?_placesOf_eq (h : Embeds f σ extra forest forest')
    (hindex : forest.Indexes index) (hindex' : forest'.Indexes index') {id : String}
    (hget : index'.get? id = (index.get? id).map σ) :
    (Planner.placesOf index' forest').get? id = (Planner.placesOf index forest).get? id := by
  rw [get?_placesOf hindex, get?_placesOf hindex', hget, Option.map_map]
  exact Option.map_congr fun i hi => h.boxOf (hindex.lt_length hi)

end Forest

end BoxArrow
