import BoxArrow.Proofs.Document.Contents
import BoxArrow.Proofs.Grammar.Completeness
import BoxArrow.Proofs.Grammar.Soundness
import BoxArrow.Proofs.Relocation.Document

/-!
# The tree of a derivation

A list of tokens is accepted if and only if it is a document of the grammar, and what is returned is
the tree of its derivation: the components in the order of the source with their written name, type,
state tag and members, and all connections in the order of the source.

## Main definitions

* `Document.outline` — the tree of a document, its spans and its state declarations aside
* `Grammar.tree` — the tree of the statements that a derivation is made of

## Main results

* `Grammar.ofTokens_eq_ok_iff_derives` — tokens are accepted with a tree if and only if they have a
  derivation with that tree
-/

namespace BoxArrow

namespace Declaration

/-- The declarations without their spans and state declarations, at any depth. -/
def outlineAll : List Declaration → List Declaration
  | [] => []
  | d@{ children, .. } :: declarations =>
    { d with span := .point 0, states := .empty, children := outlineAll children } ::
      outlineAll declarations

/-- The declaration without its span and its state declarations, and so are its members. -/
def outline (d : Declaration) : Declaration :=
  { d with span := .point 0, states := .empty, children := outlineAll d.children }

theorem outlineAll_eq_map (declarations : List Declaration) :
    outlineAll declarations = declarations.map outline := by
  induction declarations with
  | nil => rw [outlineAll, List.map_nil]
  | cons d declarations ih =>
    obtain ⟨⟩ := d
    rw [outlineAll, ih]
    rfl

end Declaration

/-- The tree of a document, its spans and its state declarations aside. -/
def Document.outline (document : Document) : Document where
  declarations := document.declarations.map Declaration.outline
  states := .empty
  connections := document.connections.map Connection.bare

namespace Grammar

/-- The component that a heading declares at a depth. -/
def component (depth : Nat) (isContainer : Bool) (children : List Declaration) (h : Heading) :
    Declaration where
  name := h.name
  typeName := h.typeName
  stateTag := h.stateTag
  span := .point 0
  depth := depth
  isContainer := isContainer
  states := .empty
  children := children

/-- The component that a statement declares. It is a container if and only if there are braces, and
then the headings between them are its members. -/
def component? : Statement → Option Declaration
  | .declaration h none => some (component 0 false [] h)
  | .declaration h (some members) =>
    some (component 0 true ((members.filterMap Member.heading?).map (component 1 false [])) h)
  | _ => none

/-- The tree of the statements that a derivation is made of. -/
def tree (statements : List Statement) : Document where
  declarations := statements.filterMap component?
  states := .empty
  connections := (statements.flatMap Statement.connections).map Connection.bare

theorem outline_ofHeading (states : OrderedMap StateDeclaration) (depth : Nat) (isContainer : Bool)
    (children : List Declaration) (h : Heading) :
    (Declaration.ofHeading states depth isContainer children h).outline =
      component depth isContainer (children.map Declaration.outline) h := by
  rw [Declaration.ofHeading, Declaration.foldl_record, ← Declaration.outlineAll_eq_map]
  rfl

theorem outline_ofStatement? (states : OrderedMap StateDeclaration) (s : Statement) :
    (Declaration.ofStatement? states s).map Declaration.outline = component? s := by
  unfold Declaration.ofStatement?
  split
  · rw [Option.map_some, outline_ofHeading]
    rfl
  · rw [Option.map_some, outline_ofHeading, List.map_map, component?]
    congr 2
    exact List.map_congr_left fun h _ => outline_ofHeading states 1 false [] h
  · rename_i hnone hsome
    rcases s with _ | _ | ⟨h, _ | members⟩
    · rfl
    · rfl
    · exact absurd rfl (hnone h)
    · exact absurd rfl (hsome h members)

/-- The outline of a document is the tree of its statements. -/
theorem outline_ofStatements (statements : List Statement) :
    (Document.ofStatements statements).outline = tree statements := by
  rw [Document.ofStatements_eq, Document.outline, tree, List.map_filterMap]
  simp only [outline_ofStatement?]

theorem component?_relocate (f : Span → Span) (s : Statement) :
    component? (s.relocate f) = component? s := by
  rcases s with _ | _ | ⟨h, _ | members⟩
  · rfl
  · rfl
  · rfl
  · change some (component 0 true _ _) = _
    rw [Member.filterMap_heading?_relocate, List.map_map]
    rfl

/-- Spans have no part in the tree of a derivation. -/
theorem tree_relocate (f : Span → Span) (ss : List Statement) :
    tree (ss.map (.relocate f)) = tree ss := by
  have hcomponents : (ss.map (.relocate f)).filterMap component? = ss.filterMap component? := by
    rw [List.filterMap_map]
    exact congrArg (List.filterMap · ss) (funext (component?_relocate f))
  rw [tree, tree, hcomponents, Statement.flatMap_connections_relocate, List.map_map]
  rfl

theorem tree_eq_of_map_bare_eq {ss ss' : List Statement}
    (h : ss.map Statement.bare = ss'.map Statement.bare) : tree ss = tree ss' := by
  rw [← tree_relocate Span.erase ss, h, tree_relocate]

/-- Containers stand at the top level of a tree, and their members have no members. -/
theorem depth_tree {statements : List Statement} {d : Declaration}
    (hd : d ∈ (tree statements).declarations) :
    d.depth = 0 ∧ ∀ m ∈ d.children, m.depth = 1 ∧ m.isContainer = false ∧ m.children = [] := by
  obtain ⟨s, _, hs⟩ := List.mem_filterMap.1 hd
  rcases s with _ | _ | ⟨h, _ | members⟩
  · cases hs
  · cases hs
  · cases hs
    exact ⟨rfl, fun m hm => absurd hm List.not_mem_nil⟩
  · cases hs
    refine ⟨rfl, fun m hm => ?_⟩
    obtain ⟨heading, _, rfl⟩ := List.mem_map.1 hm
    exact ⟨rfl, rfl, rfl⟩

theorem depth_of_outline_eq_tree {document : Document} {statements : List Statement}
    (h : document.outline = tree statements) {d : Declaration} (hd : d ∈ document.declarations) :
    d.depth = 0 ∧ ∀ m ∈ d.children, m.depth = 1 ∧ m.isContainer = false ∧ m.children = [] := by
  have houtline : d.outline ∈ (tree statements).declarations :=
    h ▸ List.mem_map_of_mem (f := Declaration.outline) hd
  obtain ⟨hdepth, hmembers⟩ := depth_tree houtline
  refine ⟨hdepth, fun m hm => ?_⟩
  have hmoutline : m.outline ∈ d.outline.children := by
    change m.outline ∈ Declaration.outlineAll d.children
    rw [Declaration.outlineAll_eq_map]
    exact List.mem_map_of_mem hm
  obtain ⟨hm1, hleaf, hnil⟩ := hmembers _ hmoutline
  have hmap : m.children.map Declaration.outline = [] :=
    (Declaration.outlineAll_eq_map m.children).symm.trans hnil
  exact ⟨hm1, hleaf, List.map_eq_nil_iff.1 hmap⟩

/-- What the readers accept is what the grammar derives. Tokens are accepted with a certain tree,
spans and state declarations aside, if and only if they have a derivation with that tree. In every
document that is read, the members of a container are at depth `1` and have no members of their
own. -/
theorem ofTokens_eq_ok_iff_derives (ts : List Lexeme) :
    (∀ outline : Document,
      (∃ document, Document.ofTokens ts = .ok document ∧ document.outline = outline) ↔
        ∃ statements, Derives (ts.map Lexeme.token) statements ∧ tree statements = outline) ∧
    ∀ document, Document.ofTokens ts = .ok document → ∀ d ∈ document.declarations,
      d.depth = 0 ∧ ∀ m ∈ d.children, m.depth = 1 ∧ m.isContainer = false ∧ m.children = [] := by
  refine ⟨fun outline => ⟨?_, ?_⟩, ?_⟩
  · rintro ⟨document, h, rfl⟩
    obtain ⟨statements, hread, rfl⟩ := map_eq_ok_iff.1 h
    -- The statements that were read are those of a derivation.
    exact ⟨statements, derives_of_ofTokens hread, (outline_ofStatements statements).symm⟩
  · rintro ⟨statements, hderives, rfl⟩
    obtain ⟨statements', hread, hbare⟩ := ofTokens_of_derives hderives
    -- They may be read with other spans than the derivation has, which the tree does not show.
    refine ⟨.ofStatements statements', map_eq_ok_iff.2 ⟨_, hread, rfl⟩, ?_⟩
    rw [outline_ofStatements, tree_eq_of_map_bare_eq hbare]
  · intro document h d hd
    obtain ⟨statements, _, rfl⟩ := map_eq_ok_iff.1 h
    exact depth_of_outline_eq_tree (outline_ofStatements statements) hd

end Grammar

end BoxArrow
