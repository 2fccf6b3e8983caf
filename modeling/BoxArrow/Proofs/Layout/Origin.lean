import BoxArrow.Proofs.Document.Names
import BoxArrow.Proofs.Layout.Fit
import BoxArrow.Proofs.Layout.Plan

/-!
# Where figures come from

Placing declarations adds one figure for each of them, a container before its members, and what a
figure says of itself besides its place is what its declaration says. No later step changes it. So
a warning about a reference is about a block of some declaration, and points to it.

## Main definitions

* `Figure.signature` — the identifier and the references of a figure

## Main results

* `Forest.map_signature_place` — the figures of declarations, in order
* `Figure.exists_state_of_reference` — a reference of a component is written in one of its states
-/

namespace BoxArrow

namespace Figure

/-- The identifier of a figure with its references. -/
def signature (figure : Figure) : String × (Axis → Option Reference) :=
  (figure.id, figure.reference)

theorem signature_ofDeclaration (catalog : Catalog) (parent : Option Nat) (d : Declaration) :
    (ofDeclaration catalog parent d).1.signature = (ofDeclaration catalog none d).1.signature := by
  rw [ofDeclaration_eq catalog parent d, ← reframe_ofDeclaration catalog none d]
  refine Prod.ext rfl (funext fun axis => ?_)
  cases axis <;> rfl

theorem signature_move (offset : Point) (figure : Figure) :
    (figure.move offset).signature = figure.signature := by
  refine Prod.ext rfl (funext fun axis => ?_)
  cases axis <;> rfl

/-! ### References and the blocks that they are written in -/

variable {figure : Figure} {axis : Axis} {reference : Reference}

/-- A block gives a reference of its own, or leaves the one from before, or none. -/
theorem block_of_reference_fit {spec : BoxSpec} {block : Span}
    (h : (figure.fit spec block).reference axis = some reference) :
    figure.reference axis = some reference ∨ reference.block = block := by
  rw [reference_fit] at h
  rcases hposition : spec.position axis with _ | _ | text <;> rw [hposition] at h
  · exact .inl h
  · cases h
  · cases h
    exact .inr rfl

theorem block_of_reference_tryAmend {placed : Bool} {block : Option StateDeclaration}
    (h : (figure.tryAmend placed block).1.reference axis = some reference) :
    figure.reference axis = some reference ∨ ∃ s ∈ block, reference.block = s.span := by
  unfold tryAmend at h
  split at h
  · exact .inl h
  · rename_i s
    split at h
    · rename_i amended hamend
      rw [amend_eq] at hamend
      obtain ⟨spec, -, hrecord⟩ := bind_eq_ok_iff.1 hamend
      obtain ⟨record, -, rfl⟩ := map_eq_ok_iff.1 hrecord
      obtain h | h := block_of_reference_fit h
      · refine .inl ?_
        cases axis <;> exact h
      · exact .inr ⟨s, rfl, h⟩
    · exact .inl h

/-- A warning about a block points to it. -/
theorem block_of_mem_tryAmend {placed : Bool} {block : Option StateDeclaration} {w : Warning}
    (hw : w ∈ (figure.tryAmend placed block).2) : ∃ s ∈ block, w.place = s.span := by
  unfold tryAmend at hw
  split at hw
  · cases hw
  · rename_i s
    split at hw
    · cases hw
    · cases List.mem_singleton.1 hw
      exact ⟨s, rfl, rfl⟩

variable {catalog : Catalog} {parent : Option Nat} {d : Declaration}

/-- A component is given the blocks of some of its states. -/
theorem mem_states_of_block {s : StateDeclaration}
    (hs : s ∈ d.ownState ∨ s ∈ otherState d) : s ∈ d.states.values := by
  have hget {name : String} (h : d.states.get? name = some s) : s ∈ d.states.values := by
    obtain ⟨entry, hentry, rfl⟩ := Option.map_eq_some_iff.1 h
    exact List.mem_map_of_mem (List.mem_of_find?_eq_some hentry)
  rcases hs with hs | hs
  · exact hget hs
  · unfold otherState at hs
    split at hs
    · cases hs
    · obtain ⟨tag, -, hs⟩ := Option.bind_eq_some_iff.1 hs
      exact hget hs

/-- A reference of a component is written in one of its states. -/
theorem exists_state_of_reference
    (h : (ofDeclaration catalog parent d).1.reference axis = some reference) :
    ∃ s ∈ d.states.values, reference.block = s.span := by
  obtain h | ⟨s, hs, hspan⟩ := block_of_reference_tryAmend h
  · obtain h | ⟨s, hs, hspan⟩ := block_of_reference_tryAmend h
    · cases axis <;> cases h
    · exact ⟨s, mem_states_of_block (.inl hs), hspan⟩
  · exact ⟨s, mem_states_of_block (.inr hs), hspan⟩

/-- A warning about a component points to one of its states. -/
theorem exists_state_of_mem_ofDeclaration {w : Warning}
    (hw : w ∈ (ofDeclaration catalog parent d).2) : ∃ s ∈ d.states.values, w.place = s.span := by
  rcases List.mem_append.1 hw with hw | hw
  · obtain ⟨s, hs, hspan⟩ := block_of_mem_tryAmend hw
    exact ⟨s, mem_states_of_block (.inl hs), hspan⟩
  · obtain ⟨s, hs, hspan⟩ := block_of_mem_tryAmend hw
    exact ⟨s, mem_states_of_block (.inr hs), hspan⟩

end Figure

namespace Forest

variable {forest : Forest} {index : OrderedMap Nat} {axis : Axis} {w : Warning}

theorem map_signature_push (forest : Forest) (figure : Figure) :
    (forest.push figure).map Figure.signature =
      forest.map Figure.signature ++ [figure.signature] := by
  unfold push
  split
  · rw [List.map_append, List.map_singleton]
  · rename_i p _
    rw [List.map_append, List.map_singleton, Figure.signature_move]
    refine congrArg (· ++ _) (List.ext_getElem? fun i => ?_)
    rw [List.getElem?_map, List.getElem?_map, List.getElem?_modify]
    cases forest[i]? with
    | none => rfl
    | some container =>
      change some (Figure.signature (if p = i then _ else container)) = some _
      split <;> rfl

/-- The figures of declarations, in order: each has the identifier of its declaration, and the
references that its blocks give it. -/
theorem map_signature_place (catalog : Catalog) (declarations : List Declaration) :
    ∀ (parent : Option Nat) (result : Forest × List Warning),
      (place catalog parent declarations result).1.map Figure.signature =
        result.1.map Figure.signature ++ (Declaration.all declarations).map fun d =>
          (Figure.ofDeclaration catalog none d).1.signature := by
  induction declarations using Declaration.forest_induction with
  | nil =>
    intro parent result
    rw [place, Declaration.all, List.map_nil, List.append_nil]
  | cons d declarations ihchildren ih =>
    intro parent result
    rw [place_cons, ih, ihchildren, add, map_signature_push, Figure.signature_ofDeclaration,
      Declaration.all_cons, List.map_cons, List.map_append]
    simp

/-- Each declaration adds one figure. -/
theorem length_place (catalog : Catalog) (declarations : List Declaration) (parent : Option Nat)
    (result : Forest × List Warning) :
    (place catalog parent declarations result).1.length =
      result.1.length + (Declaration.all declarations).length := by
  have hlength := congrArg List.length (map_signature_place catalog declarations parent result)
  rwa [List.length_append, List.length_map, List.length_map, List.length_map] at hlength

end Forest

/-- What a placed figure says of itself is what one of the declarations says. -/
theorem Planner.exists_declaration_of_mem_placed {planner : Planner} {document : Document}
    {figure : Figure} (h : figure ∈ (planner.placed document).1) :
    ∃ d, document.Contains d ∧
      figure.signature = (Figure.ofDeclaration planner.catalog none d).1.signature := by
  have hsignature := List.mem_map_of_mem (f := Figure.signature) h
  rw [placed, Forest.map_signature_place, List.map_nil, List.nil_append] at hsignature
  obtain ⟨d, hd, heq⟩ := List.mem_map.1 hsignature
  exact ⟨d, Document.contains_iff_mem_all.2 hd, heq.symm⟩

end BoxArrow
