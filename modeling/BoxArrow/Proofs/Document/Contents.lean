import BoxArrow.Document
import BoxArrow.Proofs.OrderedMap
import Mathlib.Data.List.Induction

/-!
# The contents of a document

A document is built one statement after the other, and a state declaration reaches the components
before and after it in two different ways. What comes out does not show this: every component has,
of all state declarations of the document, the ones that bear its identifier or its state tag.

## Main definitions

* `Document.statesOf` — the state declarations of a list of statements, by name
* `Declaration.ofStatement?` — the component that a statement declares, given all states
* `Statement.connections` — the connections of a statement, those in its body included
* `Statement.headings` — the components that a statement declares

## Main results

* `Declaration.ofHeading_eq` — a component has the states that it bears
* `Document.get?_statesOf` — the last state declaration of a name is the one that counts
* `Document.ofStatements_eq` — the contents of a document, statement by statement
-/

namespace BoxArrow

/-- The state declaration of a statement. -/
def Statement.state? : Statement → Option StateDeclaration
  | .state s => some s
  | _ => none

/-- The connections of a statement, those in its body included. -/
def Statement.connections : Statement → List Connection
  | .connection c => [c]
  | .declaration _ (some members) => members.filterMap Member.connection?
  | _ => []

/-- The components that a statement declares, a container before its members. -/
def Statement.headings : Statement → List Heading
  | .declaration h none => [h]
  | .declaration h (some members) => h :: members.filterMap Member.heading?
  | _ => []

/-- The state declarations of a list of statements. The last one of a name counts. -/
def Document.statesOf (statements : List Statement) : OrderedMap StateDeclaration :=
  .ofList ((statements.filterMap Statement.state?).map fun s => (s.name, s))

/-- The component that a statement declares, if these are the states of the document. -/
def Declaration.ofStatement? (states : OrderedMap StateDeclaration) :
    Statement → Option Declaration
  | .declaration h none => some (.ofHeading states 0 false [] h)
  | .declaration h (some members) =>
    some (.ofHeading states 0 true
      ((members.filterMap Member.heading?).map (.ofHeading states 1 false [])) h)
  | _ => none

/-! ### States of a component -/

/-- Every state declaration is stored under its own name. -/
def IsNamed (states : OrderedMap StateDeclaration) : Prop :=
  ∀ entry ∈ states.entries, entry.2.name = entry.1

theorem isNamed_empty : IsNamed .empty := by
  intro entry h
  exact absurd h List.not_mem_nil

theorem mem_putEntry {α : Type} {name : String} {value : α} {entries : List (String × α)}
    {entry : String × α} (h : entry ∈ putEntry name value entries) :
    entry = (name, value) ∨ entry ∈ entries := by
  induction entries with
  | nil => exact .inl (List.mem_singleton.1 h)
  | cons first entries ih =>
    rw [putEntry_cons] at h
    split at h
    · exact (List.mem_cons.1 h).imp_right (List.mem_cons_of_mem _)
    · rcases List.mem_cons.1 h with rfl | h
      · exact .inr List.mem_cons_self
      · exact (ih h).imp_right (List.mem_cons_of_mem _)

theorem IsNamed.insert {states : OrderedMap StateDeclaration} (h : IsNamed states)
    (s : StateDeclaration) : IsNamed (states.insert s.name s) := by
  intro entry hentry
  rcases mem_putEntry hentry with rfl | hold
  · rfl
  · exact h entry hold

namespace Declaration

theorem foldl_record (values : List StateDeclaration) (d : Declaration) :
    values.foldl record d =
      { d with
        states := (values.filter fun s => d.bears s.name).foldl
          (fun states s => states.insert s.name s) d.states } := by
  -- Recording changes the states alone, so what the component bears stays the same.
  induction values generalizing d with
  | nil =>
    cases d
    rfl
  | cons s values ih =>
    rw [List.foldl_cons, ih, List.filter_cons]
    by_cases h : d.bears s.name
    · rw [if_pos h, record, if_pos h]
      rfl
    · rw [if_neg h, record, if_neg h]

/-- Whether a heading bears a name, as its identifier or as its state tag. -/
def bearsAs (h : Heading) (name : String) : Bool := h.name = name || h.stateTag = some name

variable {states : OrderedMap StateDeclaration}

theorem filter_values {entries : List (String × StateDeclaration)}
    (hnamed : ∀ entry ∈ entries, entry.2.name = entry.1) (p : String → Bool) :
    ((entries.map Prod.snd).filter fun s => p s.name).map (fun s => (s.name, s)) =
      entries.filter fun entry => p entry.1 := by
  induction entries with
  | nil => rfl
  | cons entry entries ih =>
    obtain ⟨hname, hnamed⟩ := List.forall_mem_cons.1 hnamed
    have hentry : (entry.2.name, entry.2) = entry := by rw [hname]
    rw [List.map_cons, List.filter_cons, List.filter_cons, hname]
    by_cases hp : p entry.1
    · rw [if_pos hp, if_pos hp, List.map_cons, hentry, ih hnamed]
    · rw [if_neg hp, if_neg hp, ih hnamed]

/-- Of given states, a component has those that it bears, in their order. -/
theorem ofHeading_eq (hnamed : IsNamed states) (depth : Nat) (isContainer : Bool)
    (children : List Declaration) (h : Heading) :
    ofHeading states depth isContainer children h =
      { name := h.name
        typeName := h.typeName
        stateTag := h.stateTag
        span := h.span
        depth := depth
        isContainer := isContainer
        states := states.filter (bearsAs h)
        children := children } := by
  have hpairs : ((states.values.filter fun s => bearsAs h s.name).map fun s => (s.name, s)) =
      (states.filter (bearsAs h)).entries := filter_values hnamed (bearsAs h)
  -- Writing the entries of a map into the empty map, one after the other, gives the map.
  have hstates : (states.values.filter fun s => bearsAs h s.name).foldl
      (fun states s => states.insert s.name s) .empty = states.filter (bearsAs h) := by
    have hofList := OrderedMap.entries_ofList (states.filter (bearsAs h)).nodup
    rw [← hpairs, OrderedMap.ofList, List.foldl_map, hpairs] at hofList
    exact OrderedMap.ext hofList
  rw [ofHeading, foldl_record]
  exact congrArg (Declaration.mk _ _ _ _ _ _ · _) hstates

theorem children_ofHeading (hnamed : IsNamed states) (depth : Nat) (isContainer : Bool)
    (children : List Declaration) (h : Heading) :
    (ofHeading states depth isContainer children h).children = children := by
  rw [ofHeading_eq hnamed]

/-- A state declaration recorded later might as well have been known from the start. -/
theorem record_ofHeading (hnamed : IsNamed states) (s : StateDeclaration) (depth : Nat)
    (isContainer : Bool) (children : List Declaration) (h : Heading) :
    (ofHeading states depth isContainer children h).record s =
      ofHeading (states.insert s.name s) depth isContainer children h := by
  rw [ofHeading_eq hnamed, ofHeading_eq (hnamed.insert s), OrderedMap.filter_insert, record]
  by_cases hbears : bearsAs h s.name
  · rw [if_pos hbears]
    exact if_pos hbears
  · rw [if_neg hbears]
    exact if_neg hbears

theorem record_container (hnamed : IsNamed states) (s : StateDeclaration) (isContainer : Bool)
    (children : List Declaration) (h : Heading) :
    Document.record s (ofHeading states 0 isContainer children h) =
      ofHeading (states.insert s.name s) 0 isContainer (children.map (·.record s)) h := by
  rw [Document.record, record_ofHeading hnamed, ofHeading_eq (hnamed.insert s),
    ofHeading_eq hnamed, ofHeading_eq (hnamed.insert s)]

theorem record_ofStatement? (hnamed : IsNamed states) (s : StateDeclaration)
    (statement : Statement) :
    (ofStatement? states statement).map (Document.record s) =
      ofStatement? (states.insert s.name s) statement := by
  unfold ofStatement?
  split
  · rw [Option.map_some, record_container hnamed]
    rfl
  · rw [Option.map_some, record_container hnamed, List.map_map]
    congr 2
    exact List.map_congr_left fun h _ => record_ofHeading hnamed s 1 false [] h
  · rfl

end Declaration

namespace Document

theorem statesOf_concat_state (statements : List Statement) (s : StateDeclaration) :
    statesOf (statements ++ [.state s]) = (statesOf statements).insert s.name s := by
  simp [statesOf, Statement.state?, OrderedMap.ofList]

theorem statesOf_concat_of_eq_none (statements : List Statement) {s : Statement}
    (h : s.state? = none) : statesOf (statements ++ [s]) = statesOf statements := by
  simp [statesOf, h]

theorem isNamed_statesOf (statements : List Statement) : IsNamed (statesOf statements) := by
  induction statements using List.reverseRecOn with
  | nil => exact isNamed_empty
  | append_singleton statements s ih =>
    cases s with
    | state s =>
      rw [statesOf_concat_state]
      exact ih.insert s
    | connection _ | declaration _ _ =>
      rw [statesOf_concat_of_eq_none _ rfl]
      exact ih

/-- The state declaration of a name is the last one. -/
theorem get?_statesOf (statements : List Statement) (name : String) :
    (statesOf statements).get? name =
      ((statements.filterMap Statement.state?).filter (·.name = name)).getLast? := by
  rw [statesOf, OrderedMap.get?_ofList, ← List.map_reverse, List.find?_map, Option.map_map,
    List.getLast?_eq_head?_reverse, ← List.filter_reverse, List.head?_filter]
  exact congrFun Option.map_id_fun _

theorem mem_of_mem_values_statesOf {statements : List Statement} {s : StateDeclaration}
    (h : s ∈ (statesOf statements).values) : .state s ∈ statements := by
  obtain ⟨entry, hentry, rfl⟩ := List.mem_map.1 h
  obtain ⟨s, hs, rfl⟩ := List.mem_map.1 (OrderedMap.mem_of_mem_ofList hentry)
  obtain ⟨statement, hmem, hstate⟩ := List.mem_filterMap.1 hs
  cases statement with
  | state s' =>
    cases hstate
    exact hmem
  | connection _ | declaration _ _ => cases hstate

/-- The contents of a document, statement by statement: the components with the states of the whole
document, the last state declaration of each name, and all connections. -/
theorem ofStatements_eq (statements : List Statement) :
    ofStatements statements =
      { declarations := statements.filterMap (Declaration.ofStatement? (statesOf statements))
        states := statesOf statements
        connections := statements.flatMap Statement.connections } := by
  induction statements using List.reverseRecOn with
  | nil => rfl
  | append_singleton statements s ih =>
    have hadd : ofStatements (statements ++ [s]) = (ofStatements statements).add s :=
      List.foldl_append
    rw [hadd, ih, List.filterMap_append, List.flatMap_append]
    cases s with
    -- Only a state declaration reaches back to the components before it.
    | state s =>
      have hrecord : ∀ statement, _ :=
        Declaration.record_ofStatement? (isNamed_statesOf statements) s
      have hnone : [Statement.state s].filterMap
          (Declaration.ofStatement? ((statesOf statements).insert s.name s)) = [] := rfl
      rw [statesOf_concat_state, add, List.map_filterMap, hnone]
      simp [hrecord, Statement.connections]
    | connection c =>
      rw [statesOf_concat_of_eq_none _ rfl, add]
      simp [Declaration.ofStatement?, Statement.connections]
    | declaration h body =>
      rw [statesOf_concat_of_eq_none _ rfl]
      cases body <;> simp [add, Declaration.ofStatement?, Statement.connections]

end Document

end BoxArrow
