import BoxArrow.Proofs.Document.Contents
import BoxArrow.Proofs.Grammar.Soundness

/-!
# The states of a document and of its components

A state may be declared again, before or after the components that bear its name. The document
keeps its names in the order in which they are first declared and the last declaration of each. A
component has those of them that bear its identifier or its state tag, in the same order.

## Main definitions

* `Document.Contains` — a component of a document, at the top level or in a container
* `Declaration.HasStatesOf` — a component has, of given states, all that it bears and no other

## Main results

* `Document.Contains.exists_ofHeading` — a component is declared with the states of the whole
  document
* `Document.states_ofSource` — the states of a document that is read, and of its components
-/

namespace BoxArrow

/-- The components of a document: those of the top level, and with each one its children. -/
inductive Document.Contains (document : Document) : Declaration → Prop
  | top {d : Declaration} : d ∈ document.declarations → Contains document d
  | child {d m : Declaration} : Contains document d → m ∈ d.children → Contains document m

namespace Declaration

/-- Of given states, a component has those that bear its identifier or its state tag, in their
order. -/
def HasStatesOf (states : OrderedMap StateDeclaration) (d : Declaration) : Prop :=
  d.states.entries =
    states.entries.filter fun entry => entry.1 = d.name ∨ d.stateTag = some entry.1

variable {states : OrderedMap StateDeclaration}

theorem hasStatesOf_ofHeading (hnamed : IsNamed states) (depth : Nat) (isContainer : Bool)
    (children : List Declaration) (h : Heading) :
    HasStatesOf states (ofHeading states depth isContainer children h) := by
  rw [HasStatesOf, ofHeading_eq hnamed]
  refine List.filter_congr fun entry _ => ?_
  rw [bearsAs, Bool.decide_or]
  by_cases heq : entry.1 = h.name
  · simp [heq]
  · have hne : h.name ≠ entry.1 := fun e => heq e.symm
    simp [heq, hne]

end Declaration

namespace Document

variable {source : String} {document : Document} {statements : List Statement} {d : Declaration}

theorem ofSource_eq_ok_iff : ofSource source = .ok document ↔
    ∃ statements, Statement.ofTokens (Token.scan source) = .ok statements ∧
      ofStatements statements = document :=
  map_eq_ok_iff

/-- Every component is declared by some heading, with the states of the whole document, and so are
its children. -/
theorem Contains.exists_ofHeading (hd : (ofStatements statements).Contains d) :
    ∃ depth isContainer children, ∃ h ∈ statements.flatMap Statement.headings,
      d = .ofHeading (statesOf statements) depth isContainer children h ∧
        ∀ m ∈ children, ∃ h' ∈ statements.flatMap Statement.headings,
          m = .ofHeading (statesOf statements) 1 false [] h' := by
  induction hd with
  | top hd =>
    rw [ofStatements_eq] at hd
    obtain ⟨s, hs, hd⟩ := List.mem_filterMap.1 hd
    unfold Declaration.ofStatement? at hd
    split at hd
    · cases hd
      exact ⟨0, false, [], _, List.mem_flatMap.2 ⟨_, hs, List.mem_cons_self⟩, rfl, by simp⟩
    · cases hd
      refine ⟨0, true, _, _, List.mem_flatMap.2 ⟨_, hs, List.mem_cons_self⟩, rfl, ?_⟩
      intro m hm
      obtain ⟨h', hh', rfl⟩ := List.mem_map.1 hm
      exact ⟨h', List.mem_flatMap.2 ⟨_, hs, List.mem_cons_of_mem _ hh'⟩, rfl⟩
    · cases hd
  | child _ hm ih =>
    obtain ⟨depth, isContainer, children, h, -, rfl, hchildren⟩ := ih
    rw [Declaration.children_ofHeading (isNamed_statesOf statements)] at hm
    obtain ⟨h', hh', rfl⟩ := hchildren _ hm
    exact ⟨1, false, [], h', hh', rfl, by simp⟩

theorem Contains.hasStatesOf (hd : (ofStatements statements).Contains d) :
    d.HasStatesOf (statesOf statements) := by
  obtain ⟨depth, isContainer, children, h, -, rfl, -⟩ := hd.exists_ofHeading
  exact Declaration.hasStatesOf_ofHeading (isNamed_statesOf statements) depth isContainer children h

/-- The states of a document that is read: their names in the order in which they are first
declared, and of each name the last declaration. Every component has those that it bears, wherever
they are declared. -/
theorem states_ofSource (h : ofSource source = .ok document) :
    ∃ statements, Grammar.Derives ((Token.scan source).map Lexeme.token) statements ∧
      Statement.ofTokens (Token.scan source) = .ok statements ∧
      document.states.keys = ((statements.filterMap Statement.state?).map (·.name)).eraseDups ∧
      (∀ name, document.states.get? name =
        ((statements.filterMap Statement.state?).filter (·.name = name)).getLast?) ∧
      ∀ d, document.Contains d → d.HasStatesOf document.states := by
  obtain ⟨statements, hread, rfl⟩ := ofSource_eq_ok_iff.1 h
  have hstates : (ofStatements statements).states = statesOf statements := by
    rw [ofStatements_eq]
  refine ⟨statements, Grammar.derives_of_ofTokens hread, hread, ?_⟩
  rw [hstates]
  refine ⟨?_, get?_statesOf statements, fun d hd => hd.hasStatesOf⟩
  rw [statesOf, OrderedMap.keys_ofList, List.map_map]
  rfl

/-- A state that is declared before and after the components that bear its name. -/
theorem states_ofSource_redeclared :
    ∃ document, ofSource "@a(x: 1)\nc @ a \x7b a b @ d \x7d\n@d()\n@a(x: 2)" = .ok document ∧
      document.states.keys = ["a", "d"] ∧
      document.states.get? "a" = some ⟨"a", "x:2", ⟨32, 40⟩⟩ ∧
      ∀ d, document.Contains d → d.HasStatesOf document.states := by
  have hread : Statement.ofTokens
      (Token.scan "@a(x: 1)\nc @ a \x7b a b @ d \x7d\n@d()\n@a(x: 2)") =
        .ok [.state ⟨"a", "x:1", ⟨0, 8⟩⟩,
          .declaration ⟨"c", none, some "a", ⟨9, 14⟩⟩ (some
            [.declaration ⟨"a", none, none, ⟨17, 18⟩⟩,
              .declaration ⟨"b", none, some "d", ⟨19, 24⟩⟩]),
          .state ⟨"d", "", ⟨27, 31⟩⟩, .state ⟨"a", "x:2", ⟨32, 40⟩⟩] := by
    decide +kernel
  have hsource := ofSource_eq_ok_iff.2 ⟨_, hread, rfl⟩
  obtain ⟨_, -, -, -, -, hcomponents⟩ := states_ofSource hsource
  exact ⟨_, hsource, by decide, by decide, hcomponents⟩

end Document

end BoxArrow
