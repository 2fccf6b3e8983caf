import BoxArrow.Proofs.Layout.Connections
import BoxArrow.Proofs.Layout.Origin

/-!
# Where warnings are reported

Every phase of a layout reports what it leaves out at the block that it has read: the canvas and
the figures at a state declaration, a tie at the state declaration that its reference is written in,
and a connection at itself. All of them stand in the document.

## Main definitions

* `Document.HasAt` — a state declaration or a connection of a document stands at a place

## Main results

* `Planner.hasAt_of_mem_warnings` — every warning points to a part of the document
-/

namespace BoxArrow

/-- A state declaration or a connection of the document stands at a place. -/
def Document.HasAt (document : Document) (place : Span) : Prop :=
  (∃ s ∈ document.states.values, s.span = place) ∨ ∃ c ∈ document.connections, c.span = place

namespace Planner

variable {planner : Planner} {document : Document} {w : Warning}

theorem place_of_mem_remarksOn {places : OrderedMap Box} {c : Connection}
    (hw : w ∈ remarksOn places c) : w.place = c.span := by
  unfold remarksOn penOf at hw
  split at hw
  · split at hw
    · cases hw
    · split at hw
      · cases hw
      · cases List.mem_singleton.1 hw
        rfl
  · cases List.mem_singleton.1 hw
    rfl

theorem hasAt_of_mem_canvasOf (hw : w ∈ (planner.canvasOf document).2) :
    document.HasAt w.place := by
  unfold canvasOf at hw
  split at hw
  · cases hw
  · rename_i block hget
    split at hw
    · cases hw
    · cases List.mem_singleton.1 hw
      obtain ⟨entry, hentry, rfl⟩ := Option.map_eq_some_iff.1 hget
      exact .inl ⟨_, List.mem_map_of_mem (List.mem_of_find?_eq_some hentry), rfl⟩

/-- Every warning of a layout points to a state declaration or to a connection of the document. -/
theorem hasAt_of_mem_warnings
    (hstates : ∀ d, document.Contains d → d.HasStatesOf document.states)
    (hw : w ∈ (planner.plan document).warnings) : document.HasAt w.place := by
  -- The states of a component are states of the document.
  have hstate {d : Declaration} (hd : document.Contains d) {place : Span}
      (hplace : ∃ s ∈ d.states.values, place = s.span) : document.HasAt place := by
    obtain ⟨s, hs, rfl⟩ := hplace
    obtain ⟨entry, hentry, rfl⟩ := List.mem_map.1 hs
    rw [hstates d hd] at hentry
    exact .inl ⟨_, List.mem_map_of_mem (List.mem_of_mem_filter hentry), rfl⟩
  rw [warnings_plan_eq_foldl, List.mem_append, List.mem_append, List.mem_append] at hw
  rcases hw with ((hcanvas | hblock) | htie) | hconnection
  · exact hasAt_of_mem_canvasOf hcanvas
  · rw [placed, Forest.warnings_place, List.nil_append, Forest.warningsOf_eq_flatMap] at hblock
    obtain ⟨d, hd, hw⟩ := List.mem_flatMap.1 hblock
    exact hstate (Document.contains_iff_mem_all.2 hd) (Figure.exists_state_of_mem_ofDeclaration hw)
  · obtain ⟨figure, hfigure, axis, reference, hreference, hfound⟩ := Forest.exists_of_mem_settle
      (Forest.isNested_place ..) (Forest.indexes_lastIndex _) htie
    have hplace : w.place = reference.block := by
      rcases hfound with hrefused | rfl
      · exact Tie.place_of_ofReference_eq_error hrefused
      · rfl
    obtain ⟨d, hd, hsignature⟩ := exists_declaration_of_mem_placed hfigure
    rw [(Prod.mk.inj hsignature).2] at hreference
    exact hstate hd (hplace ▸ Figure.exists_state_of_reference hreference)
  · rw [foldl_connect_eq, List.nil_append] at hconnection
    obtain ⟨c, hc, hw⟩ := List.mem_flatMap.1 hconnection
    exact .inr ⟨c, hc, (place_of_mem_remarksOn hw).symm⟩

end Planner

end BoxArrow
