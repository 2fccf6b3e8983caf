import BoxArrow.Proofs.Document.States
import BoxArrow.Proofs.Layout.Placement

/-!
# The identifiers of a document

Every component has an identifier, whether it is declared at the top level or in a container, and
its figure bears the same one.

## Main definitions

* `Declaration.all` — declarations with all that is inside them, in the order of their figures
* `Declaration.names` — their identifiers
* `Document.Declares` — an identifier is declared somewhere in a document

## Main results

* `Document.contains_iff_mem_all` — the components of a document
* `Document.mem_names_iff` — the identifiers of a document are those of its components
* `Forest.map_id_place` — the figures of declarations bear their identifiers, in order
-/

namespace BoxArrow

/-- The identifiers of declarations and of all that is inside them, a container before its
members. -/
def Declaration.names : List Declaration → List String
  | [] => []
  | d@{ children, .. } :: declarations => d.name :: (names children ++ names declarations)

theorem Declaration.names_cons (d : Declaration) (declarations : List Declaration) :
    names (d :: declarations) = d.name :: (names d.children ++ names declarations) := by
  cases d
  rw [names]

/-- Declarations with all that is inside them, a container before its members. -/
def Declaration.all : List Declaration → List Declaration
  | [] => []
  | d@{ children, .. } :: declarations => d :: (all children ++ all declarations)

theorem Declaration.all_cons (d : Declaration) (declarations : List Declaration) :
    all (d :: declarations) = d :: (all d.children ++ all declarations) := by
  cases d
  rw [all]

theorem Declaration.names_eq_map_all (declarations : List Declaration) :
    names declarations = (all declarations).map Declaration.name := by
  induction declarations using Declaration.forest_induction with
  | nil =>
    rw [names, all]
    rfl
  | cons d declarations ihchildren ih =>
    rw [names_cons, all_cons, List.map_cons, List.map_append, ihchildren, ih]

theorem Declaration.all_append (declarations declarations' : List Declaration) :
    all (declarations ++ declarations') = all declarations ++ all declarations' := by
  induction declarations with
  | nil =>
    rw [all]
    rfl
  | cons d declarations ih =>
    rw [List.cons_append, all_cons, all_cons, ih, List.cons_append, List.append_assoc]

theorem Declaration.mem_all_of_mem {d : Declaration} {declarations : List Declaration}
    (hd : d ∈ declarations) : d ∈ all declarations := by
  induction declarations with
  | nil => cases hd
  | cons first declarations ih =>
    rw [all_cons, List.mem_cons, List.mem_append]
    exact (List.mem_cons.1 hd).imp_right fun hd => .inr (ih hd)

/-- What is directly inside one of the declarations is among them, too. -/
theorem Declaration.mem_all_of_mem_children {d m : Declaration} (hm : m ∈ d.children)
    (declarations : List Declaration) : d ∈ all declarations → m ∈ all declarations := by
  induction declarations using Declaration.forest_induction with
  | nil =>
    intro hd
    rw [all] at hd
    cases hd
  | cons first declarations ihchildren ih =>
    intro hd
    rw [all_cons, List.mem_cons, List.mem_append] at hd ⊢
    rcases hd with rfl | hd | hd
    · exact .inr (.inl (mem_all_of_mem hm))
    · exact .inr (.inl (ihchildren hd))
    · exact .inr (.inr (ih hd))

namespace Document

variable {document : Document} {d : Declaration} {id : String}

theorem contains_of_mem_all (declarations : List Declaration) :
    (∀ d ∈ declarations, document.Contains d) →
      ∀ d ∈ Declaration.all declarations, document.Contains d := by
  induction declarations using Declaration.forest_induction with
  | nil =>
    intro _ d hd
    rw [Declaration.all] at hd
    cases hd
  | cons first declarations ihchildren ih =>
    intro hcontains d hd
    obtain ⟨hfirst, hrest⟩ := List.forall_mem_cons.1 hcontains
    rw [Declaration.all_cons, List.mem_cons, List.mem_append] at hd
    rcases hd with rfl | hd | hd
    · exact hfirst
    · exact ihchildren (fun m hm => .child hfirst hm) d hd
    · exact ih hrest d hd

/-- The components of a document are its declarations with all that is inside them. -/
theorem contains_iff_mem_all :
    document.Contains d ↔ d ∈ Declaration.all document.declarations := by
  constructor
  · intro hd
    induction hd with
    | top hd => exact Declaration.mem_all_of_mem hd
    | child _ hm ih => exact Declaration.mem_all_of_mem_children hm _ ih
  · exact contains_of_mem_all _ (fun d hd => .top hd) d

/-- A component with the identifier is declared, at the top level or in a container. -/
def Declares (document : Document) (id : String) : Prop :=
  ∃ d, document.Contains d ∧ d.name = id

/-- The identifiers of a document are those of its components. -/
theorem mem_names_iff : id ∈ Declaration.names document.declarations ↔ document.Declares id := by
  rw [Declaration.names_eq_map_all, List.mem_map]
  exact exists_congr fun d => and_congr_left fun _ => contains_iff_mem_all.symm

instance (document : Document) (id : String) : Decidable (document.Declares id) :=
  decidable_of_iff _ mem_names_iff

end Document

namespace Forest

theorem map_id_rowsOf (catalog : Catalog) (declarations : List Declaration) :
    ∀ area, (rowsOf catalog area declarations).map (fun row => row.1.id) =
      Declaration.names declarations := by
  induction declarations using Declaration.forest_induction with
  | nil =>
    intro area
    rw [rowsOf, Declaration.names, List.map_nil]
  | cons d declarations ihchildren ih =>
    intro area
    have hid : (putInto area (Figure.ofDeclaration catalog none d).1).alone.id = d.name := by
      rw [← Figure.id_ofDeclaration catalog none d]
      cases area <;> rfl
    rw [rowsOf_cons, Declaration.names_cons, List.map_cons, List.map_append, ihchildren, ih, hid]

/-- The figures of declarations bear their identifiers, in order. -/
theorem map_id_place (catalog : Catalog) (declarations : List Declaration) :
    (place catalog none declarations ([], [])).1.map Figure.id =
      Declaration.names declarations := by
  rw [← map_id_rows, (rows_place catalog declarations none ([], []) isNested_nil nofun).1]
  exact map_id_rowsOf catalog declarations none

/-- The warnings about blocks are those about the blocks of each declaration, in order. -/
theorem warningsOf_eq_flatMap (catalog : Catalog) (declarations : List Declaration) :
    warningsOf catalog declarations =
      (Declaration.all declarations).flatMap fun d =>
        (Figure.ofDeclaration catalog none d).2 := by
  induction declarations using Declaration.forest_induction with
  | nil =>
    rw [warningsOf, Declaration.all]
    rfl
  | cons d declarations ihchildren ih =>
    rw [warningsOf_cons, Declaration.all_cons, List.flatMap_cons, List.flatMap_append, ihchildren,
      ih]

end Forest

end BoxArrow
