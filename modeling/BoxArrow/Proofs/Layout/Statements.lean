import BoxArrow.Proofs.Layout.Placement
import BoxArrow.Proofs.Relocation.Document

/-!
# The figures of statements

Each statement has figures of its own. They depend on the statement, on the state declarations of
the whole document, and on nothing else, so that statements in another order have the same figures
in another order.

## Main definitions

* `SameStates` — two documents know the same states, up to places
* `Statement.rows`, `Statement.warnings` — the figures of a statement, and what is said about them

## Main results

* `Statement.rows_congr`, `Statement.warnings_congr` — the place of a statement does not matter
* `Document.rows_place` — the figures of a document, statement by statement
-/

namespace BoxArrow

/-- Two documents know the same state declarations, up to places. -/
def SameStates (states states' : OrderedMap StateDeclaration) : Prop :=
  ∀ name, (states.get? name).map StateDeclaration.bare =
    (states'.get? name).map StateDeclaration.bare

section Heading

variable {states states' : OrderedMap StateDeclaration} {h h' : Heading}
  {children : List Declaration}

theorem ownState_ofHeading (hnamed : IsNamed states) (depth : Nat) (isContainer : Bool) :
    (Declaration.ofHeading states depth isContainer children h).ownState = states.get? h.name := by
  rw [Declaration.ofHeading_eq hnamed, Declaration.ownState, OrderedMap.get?_filter]
  exact if_pos (by simp [Declaration.bearsAs])

theorem taggedState_ofHeading (hnamed : IsNamed states) (depth : Nat) (isContainer : Bool) :
    (Declaration.ofHeading states depth isContainer children h).taggedState =
      h.stateTag.bind states.get? := by
  rw [Declaration.ofHeading_eq hnamed, Declaration.taggedState]
  cases htag : h.stateTag with
  | none => rfl
  | some tag =>
    rw [Option.bind_some, Option.bind_some, OrderedMap.get?_filter]
    exact if_pos (by simp [Declaration.bearsAs, htag])

theorem name_ofHeading (hnamed : IsNamed states) (depth : Nat) (isContainer : Bool) :
    (Declaration.ofHeading states depth isContainer children h).name = h.name := by
  rw [Declaration.ofHeading_eq hnamed]

/-- The figure of a heading, and the warnings about its blocks, without their places. -/
theorem ofDeclaration_ofHeading (hnamed : IsNamed states) (hnamed' : IsNamed states')
    (hsame : SameStates states states') (hbare : h.bare = h'.bare) (catalog : Catalog)
    (depth : Nat) (isContainer : Bool) (children children' : List Declaration) :
    (Figure.ofDeclaration catalog none (.ofHeading states depth isContainer children h)).1.bare =
        (Figure.ofDeclaration catalog none
          (.ofHeading states' depth isContainer children' h')).1.bare ∧
      (Figure.ofDeclaration catalog none (.ofHeading states depth isContainer children h)).2.map
          Warning.bare =
        (Figure.ofDeclaration catalog none
          (.ofHeading states' depth isContainer children' h')).2.map Warning.bare := by
  obtain ⟨hname, htype, htag, -⟩ := Heading.mk.inj hbare
  refine Figure.ofDeclaration_bare_congr ?_ ?_ ?_ ?_
  · rw [Declaration.ofHeading_eq hnamed, Declaration.ofHeading_eq hnamed']
    unfold Figure.initial
    simp only [hname, htype]
  · rw [Declaration.ofHeading_eq hnamed, Declaration.ofHeading_eq hnamed']
  · rw [ownState_ofHeading hnamed, ownState_ofHeading hnamed', hname, hsame]
  -- The other block is that of the state tag, unless the tag is the identifier itself.
  · unfold Figure.otherState
    rw [taggedState_ofHeading hnamed, taggedState_ofHeading hnamed',
      Declaration.ofHeading_eq hnamed, Declaration.ofHeading_eq hnamed']
    simp only [hname, htag]
    split
    · rfl
    · cases h'.stateTag with
      | none => rfl
      | some tag => exact hsame tag

end Heading

namespace Forest

theorem bare_putInto (area : Area) (figure : Figure) :
    (putInto area figure).bare = putInto area figure.bare := by
  cases area <;> rfl

theorem alone_putInto_congr {figure figure' : Figure} (h : figure.bare = figure'.bare)
    (area : Area) : (putInto area figure).alone = (putInto area figure').alone := by
  have hbare : (putInto area figure).bare = (putInto area figure').bare := by
    rw [bare_putInto, bare_putInto, h]
  exact congrArg (fun figure : Figure => { figure with parent := none, children := [] }) hbare

/-- A figure put into the content area of a container, the places of both aside. -/
theorem alone_putInto_contentOrigin_congr {container container' figure figure' : Figure}
    (hcontainer : container.bare = container'.bare) (h : figure.bare = figure'.bare)
    (name : String) :
    (putInto (some (name, container.box.contentOrigin)) figure).alone =
      (putInto (some (name, container'.box.contentOrigin)) figure').alone := by
  have hbox : container.bare.box = container'.bare.box := congrArg Figure.box hcontainer
  have hbox' : container.box = container'.box := hbox
  rw [hbox']
  exact alone_putInto_congr h _

theorem rowsOf_append (catalog : Catalog) (area : Area) (ds ds' : List Declaration) :
    rowsOf catalog area (ds ++ ds') = rowsOf catalog area ds ++ rowsOf catalog area ds' := by
  induction ds with
  | nil => rw [rowsOf, List.nil_append, List.nil_append]
  | cons d ds ih => rw [List.cons_append, rowsOf_cons, rowsOf_cons, ih, List.cons_append,
      List.append_assoc]

theorem warningsOf_append (catalog : Catalog) (ds ds' : List Declaration) :
    warningsOf catalog (ds ++ ds') = warningsOf catalog ds ++ warningsOf catalog ds' := by
  induction ds with
  | nil => rw [warningsOf, List.nil_append, List.nil_append]
  | cons d ds ih => rw [List.cons_append, warningsOf_cons, warningsOf_cons, ih, List.append_assoc,
      List.append_assoc]

/-- The rows of declarations without members. -/
theorem rowsOf_map_ofHeading {states : OrderedMap StateDeclaration} (hnamed : IsNamed states)
    (catalog : Catalog) (area : Area) (headings : List Heading) :
    rowsOf catalog area (headings.map (.ofHeading states 1 false [])) =
      headings.map fun h =>
        ((putInto area
            (Figure.ofDeclaration catalog none (.ofHeading states 1 false [] h)).1).alone,
          area.map Prod.fst) := by
  induction headings with
  | nil => rw [List.map_nil, rowsOf, List.map_nil]
  | cons h headings ih =>
    rw [List.map_cons, rowsOf_cons, ih, Declaration.children_ofHeading hnamed, rowsOf,
      List.nil_append, List.map_cons]

theorem warningsOf_map_ofHeading {states : OrderedMap StateDeclaration} (hnamed : IsNamed states)
    (catalog : Catalog) (headings : List Heading) :
    warningsOf catalog (headings.map (.ofHeading states 1 false [])) =
      headings.flatMap fun h =>
        (Figure.ofDeclaration catalog none (.ofHeading states 1 false [] h)).2 := by
  induction headings with
  | nil => rw [List.map_nil, warningsOf, List.flatMap_nil]
  | cons h headings ih =>
    rw [List.map_cons, warningsOf_cons, ih, Declaration.children_ofHeading hnamed, warningsOf,
      List.nil_append, List.flatMap_cons]

end Forest

/-- Lists that agree through one pair of functions agree through what is determined by it. -/
theorem map_eq_map_of_map_eq {α β γ : Type} {f f' : α → β} {g g' : α → γ}
    (h : ∀ a a', f a = f' a' → g a = g' a') {list list' : List α}
    (heq : list.map f = list'.map f') : list.map g = list'.map g' := by
  induction list generalizing list' with
  | nil =>
    obtain rfl := List.map_eq_nil_iff.1 heq.symm
    rfl
  | cons a list ih =>
    obtain ⟨a', list'', rfl, ha, hlist⟩ := List.map_eq_cons_iff.1 heq.symm
    rw [List.map_cons, List.map_cons, h a a' ha.symm, ih hlist.symm]

namespace Statement

/-- The figures of a statement, with the identifiers of their containers. -/
def rows (catalog : Catalog) (states : OrderedMap StateDeclaration) (s : Statement) :
    List (Figure × Option String) :=
  Forest.rowsOf catalog none (Declaration.ofStatement? states s).toList

/-- The warnings about the blocks of a statement. -/
def warnings (catalog : Catalog) (states : OrderedMap StateDeclaration) (s : Statement) :
    List Warning :=
  Forest.warningsOf catalog (Declaration.ofStatement? states s).toList

variable {states states' : OrderedMap StateDeclaration} {s s' : Statement}

section Parts

variable (hnamed : IsNamed states) (catalog : Catalog) (h : Heading)
include hnamed

theorem rows_component :
    (declaration h none).rows catalog states =
      [((Figure.ofDeclaration catalog none (.ofHeading states 0 false [] h)).1.alone, none)] := by
  change Forest.rowsOf catalog none [.ofHeading states 0 false [] h] = _
  rw [Forest.rowsOf_cons, Declaration.children_ofHeading hnamed, Forest.rowsOf, Forest.rowsOf]
  rfl

theorem rows_container (members : List Member) :
    (declaration h (some members)).rows catalog states =
      let children := (members.filterMap Member.heading?).map (.ofHeading states 1 false [])
      let figure := (Figure.ofDeclaration catalog none (.ofHeading states 0 true children h)).1
      (figure.alone, none) ::
        (members.filterMap Member.heading?).map fun m =>
          ((Forest.putInto (some (h.name, figure.box.contentOrigin))
              (Figure.ofDeclaration catalog none (.ofHeading states 1 false [] m)).1).alone,
            some h.name) := by
  change Forest.rowsOf catalog none [.ofHeading states 0 true _ h] = _
  rw [Forest.rowsOf_cons, Declaration.children_ofHeading hnamed, name_ofHeading hnamed,
    Forest.rowsOf_map_ofHeading hnamed, Forest.rowsOf, List.append_nil]
  rfl

theorem warnings_component :
    (declaration h none).warnings catalog states =
      (Figure.ofDeclaration catalog none (.ofHeading states 0 false [] h)).2 := by
  change Forest.warningsOf catalog [.ofHeading states 0 false [] h] = _
  rw [Forest.warningsOf_cons, Declaration.children_ofHeading hnamed, Forest.warningsOf,
    List.append_nil, List.append_nil]

theorem warnings_container (members : List Member) :
    (declaration h (some members)).warnings catalog states =
      let children := (members.filterMap Member.heading?).map (.ofHeading states 1 false [])
      (Figure.ofDeclaration catalog none (.ofHeading states 0 true children h)).2 ++
        (members.filterMap Member.heading?).flatMap fun m =>
          (Figure.ofDeclaration catalog none (.ofHeading states 1 false [] m)).2 := by
  change Forest.warningsOf catalog [.ofHeading states 0 true _ h] = _
  rw [Forest.warningsOf_cons, Declaration.children_ofHeading hnamed,
    Forest.warningsOf_map_ofHeading hnamed, Forest.warningsOf, List.append_nil]

end Parts

/-- A statement that is a declaration up to its place. -/
theorem bare_declaration_eq {h : Heading} {body : Option (List Member)}
    (hbare : (declaration h body).bare = s'.bare) :
    ∃ h' body', s' = declaration h' body' ∧ h.bare = h'.bare ∧
      body.map (·.map Member.bare) = body'.map (·.map Member.bare) := by
  cases s' with
  | state _ => cases hbare
  | connection _ => cases hbare
  | declaration h' body' =>
    obtain ⟨hh, hbody⟩ := Statement.declaration.inj hbare
    exact ⟨h', body', rfl, hh, hbody⟩

theorem map_bare_headings {members members' : List Member}
    (h : members.map (Member.relocate Span.erase) = members'.map (Member.relocate Span.erase)) :
    (members.filterMap Member.heading?).map Heading.bare =
      (members'.filterMap Member.heading?).map Heading.bare := by
  rw [← Member.filterMap_heading?_relocate, ← Member.filterMap_heading?_relocate, h]

section Congr

variable (hnamed : IsNamed states) (hnamed' : IsNamed states') (hsame : SameStates states states')
  (hbare : s.bare = s'.bare) (catalog : Catalog)
include hnamed hnamed' hsame hbare

/-- The figures of a statement do not depend on its place. -/
theorem rows_congr : s.rows catalog states = s'.rows catalog states' := by
  cases s with
  | state _ | connection _ =>
    cases s' with
    | state _ | connection _ => rfl
    | declaration _ _ => cases hbare
  | declaration h body =>
    obtain ⟨h', body', rfl, hh, hbody⟩ := bare_declaration_eq hbare
    have hname : h.name = h'.name := (Heading.mk.inj hh).1
    cases body with
    | none =>
      cases body' with
      | some _ => cases hbody
      | none =>
        obtain ⟨hfigure, -⟩ := ofDeclaration_ofHeading hnamed hnamed' hsame hh catalog 0 false [] []
        have hself := Forest.alone_putInto_congr hfigure none
        -- At the top level there is no content area to be put into.
        rw [rows_component hnamed, rows_component hnamed']
        exact congrArg (fun figure => [(figure, none)]) hself
    | some members =>
      cases body' with
      | none => cases hbody
      | some members' =>
        have hheadings := map_bare_headings (Option.some.inj hbody)
        obtain ⟨hfigure, -⟩ := ofDeclaration_ofHeading hnamed hnamed' hsame hh catalog 0 true
          ((members.filterMap Member.heading?).map (.ofHeading states 1 false []))
          ((members'.filterMap Member.heading?).map (.ofHeading states' 1 false []))
        have hself := Forest.alone_putInto_congr hfigure none
        rw [rows_container hnamed, rows_container hnamed']
        -- The members stand in the content area of the container, whose box is the same.
        refine congrArg₂ List.cons (Prod.ext hself rfl) ?_
        refine map_eq_map_of_map_eq (fun m m' hm => ?_) hheadings
        obtain ⟨hmember, -⟩ := ofDeclaration_ofHeading hnamed hnamed' hsame hm catalog 1 false [] []
        rw [hname, Forest.alone_putInto_contentOrigin_congr hfigure hmember]

/-- Neither do the warnings about its blocks, their own places aside. -/
theorem warnings_congr :
    (s.warnings catalog states).map Warning.bare =
      (s'.warnings catalog states').map Warning.bare := by
  cases s with
  | state _ | connection _ =>
    cases s' with
    | state _ | connection _ => rfl
    | declaration _ _ => cases hbare
  | declaration h body =>
    obtain ⟨h', body', rfl, hh, hbody⟩ := bare_declaration_eq hbare
    cases body with
    | none =>
      cases body' with
      | some _ => cases hbody
      | none =>
        obtain ⟨-, hwarnings⟩ :=
          ofDeclaration_ofHeading hnamed hnamed' hsame hh catalog 0 false [] []
        rw [warnings_component hnamed, warnings_component hnamed', hwarnings]
    | some members =>
      cases body' with
      | none => cases hbody
      | some members' =>
        obtain ⟨-, hwarnings⟩ := ofDeclaration_ofHeading hnamed hnamed' hsame hh catalog 0 true
          ((members.filterMap Member.heading?).map (.ofHeading states 1 false []))
          ((members'.filterMap Member.heading?).map (.ofHeading states' 1 false []))
        rw [warnings_container hnamed, warnings_container hnamed', List.map_append,
          List.map_append, hwarnings, List.map_flatMap, List.map_flatMap, List.flatMap_def,
          List.flatMap_def]
        -- The warnings about the container are the same, and so are those about each member.
        refine congrArg (_ ++ List.flatten ·)
          (map_eq_map_of_map_eq (fun m m' hm => ?_) (map_bare_headings (Option.some.inj hbody)))
        exact (ofDeclaration_ofHeading hnamed hnamed' hsame hm catalog 1 false [] []).2

end Congr

/-- The figures of a statement bear the identifiers that it declares. -/
theorem map_id_rows (hnamed : IsNamed states) (catalog : Catalog) (s : Statement) :
    (s.rows catalog states).map (fun row => row.1.id) = s.headings.map Heading.name := by
  -- Neither the blocks of a component nor the area that it is put into change its identifier.
  have hid : ∀ (area : Forest.Area) (depth : Nat) (isContainer : Bool)
      (children : List Declaration) (h : Heading),
        (Forest.putInto area (Figure.ofDeclaration catalog none
          (.ofHeading states depth isContainer children h)).1).alone.id = h.name := by
    intro area depth isContainer children h
    rw [← name_ofHeading hnamed depth isContainer, ← Figure.id_ofDeclaration catalog none]
    cases area <;> rfl
  have hnil : (Forest.rowsOf catalog none []).map (fun row => row.1.id) = [] := by
    rw [Forest.rowsOf, List.map_nil]
  rcases s with _ | _ | ⟨h, _ | members⟩
  · exact hnil
  · exact hnil
  · rw [rows_component hnamed]
    exact congrArg (fun name => [name]) (hid none 0 false [] h)
  · rw [rows_container hnamed]
    dsimp only
    rw [List.map_cons, List.map_map, headings, List.map_cons]
    refine congrArg₂ List.cons (hid none 0 true _ h) ?_
    exact List.map_congr_left fun m _ => hid _ 1 false [] m

end Statement

namespace Document

theorem rowsOf_filterMap (catalog : Catalog) (states : OrderedMap StateDeclaration)
    (ss : List Statement) :
    Forest.rowsOf catalog none (ss.filterMap (Declaration.ofStatement? states)) =
      ss.flatMap (Statement.rows catalog states) := by
  induction ss with
  | nil => rw [List.filterMap_nil, Forest.rowsOf, List.flatMap_nil]
  | cons s ss ih =>
    rw [List.flatMap_cons, ← ih, Statement.rows, ← Forest.rowsOf_append, List.filterMap_cons]
    cases Declaration.ofStatement? states s <;> rfl

theorem warningsOf_filterMap (catalog : Catalog) (states : OrderedMap StateDeclaration)
    (ss : List Statement) :
    Forest.warningsOf catalog (ss.filterMap (Declaration.ofStatement? states)) =
      ss.flatMap (Statement.warnings catalog states) := by
  induction ss with
  | nil => rw [List.filterMap_nil, Forest.warningsOf, List.flatMap_nil]
  | cons s ss ih =>
    rw [List.flatMap_cons, ← ih, Statement.warnings, ← Forest.warningsOf_append,
      List.filterMap_cons]
    cases Declaration.ofStatement? states s <;> rfl

variable (catalog : Catalog) (ss : List Statement)

/-- The figures of a document, statement by statement. -/
theorem rows_place :
    (Forest.place catalog none (ofStatements ss).declarations ([], [])).1.rows =
      ss.flatMap (Statement.rows catalog (statesOf ss)) := by
  rw [(Forest.rows_place catalog _ none ([], []) Forest.isNested_nil nofun).1, ofStatements_eq]
  exact rowsOf_filterMap catalog (statesOf ss) ss

/-- The warnings about the blocks of a document, statement by statement. -/
theorem warnings_place :
    (Forest.place catalog none (ofStatements ss).declarations ([], [])).2 =
      ss.flatMap (Statement.warnings catalog (statesOf ss)) := by
  rw [Forest.warnings_place, ofStatements_eq]
  exact warningsOf_filterMap catalog (statesOf ss) ss

variable {ss} {ss' : List Statement}

/-- Documents whose state declarations of each name are the same, in their order and up to places,
know the same states. -/
theorem sameStates_statesOf
    (h : ∀ name : String,
      ((ss.filterMap Statement.state?).filter (·.name = name)).map StateDeclaration.bare =
        ((ss'.filterMap Statement.state?).filter (·.name = name)).map StateDeclaration.bare) :
    SameStates (statesOf ss) (statesOf ss') := by
  intro name
  rw [get?_statesOf, get?_statesOf, ← List.getLast?_map, ← List.getLast?_map, h]

variable (hsame : SameStates (statesOf ss) (statesOf ss'))
  (hperm : (ss.map Statement.bare).Perm (ss'.map Statement.bare))
include hsame hperm

/-- What each statement gives, its place aside, does not depend on the order of the statements. -/
theorem flatMap_statesOf_perm {α : Type} {g : OrderedMap StateDeclaration → Statement → List α}
    (hcongr : ∀ states s s', IsNamed states → SameStates states (statesOf ss') →
      s.bare = s'.bare → g states s = g (statesOf ss') s') :
    (ss.flatMap (g (statesOf ss))).Perm (ss'.flatMap (g (statesOf ss'))) := by
  -- Both lists are read off their bare statements, given the states of the second one.
  have hbare : ∀ (states : OrderedMap StateDeclaration) (ss'' : List Statement), IsNamed states →
      SameStates states (statesOf ss') →
        ss''.flatMap (g states) = (ss''.map Statement.bare).flatMap (g (statesOf ss')) := by
    intro states ss'' hnamed hsame
    rw [List.flatMap_map]
    exact List.flatMap_congr fun s _ => hcongr states s s.bare hnamed hsame s.bare_bare.symm
  rw [hbare _ ss (isNamed_statesOf ss) hsame, hbare _ ss' (isNamed_statesOf ss') fun _ => rfl]
  exact hperm.flatMap_right _

/-- The same statements in another order have the same figures in another order. -/
theorem rows_perm :
    (ss.flatMap (Statement.rows catalog (statesOf ss))).Perm
      (ss'.flatMap (Statement.rows catalog (statesOf ss'))) := by
  refine flatMap_statesOf_perm hsame hperm fun states s s' hnamed hsame hbare => ?_
  exact Statement.rows_congr hnamed (isNamed_statesOf ss') hsame hbare catalog

/-- Blocks of the same statements in another order are warned about in another order. -/
theorem warnings_perm :
    ((ss.flatMap (Statement.warnings catalog (statesOf ss))).map Warning.bare).Perm
      ((ss'.flatMap (Statement.warnings catalog (statesOf ss'))).map Warning.bare) := by
  rw [List.map_flatMap, List.map_flatMap]
  refine flatMap_statesOf_perm (g := fun states s => (s.warnings catalog states).map Warning.bare)
    hsame hperm fun states s s' hnamed hsame hbare => ?_
  exact Statement.warnings_congr hnamed (isNamed_statesOf ss') hsame hbare catalog

end Document

end BoxArrow
