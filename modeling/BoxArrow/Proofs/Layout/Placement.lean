import BoxArrow.Proofs.Document.Contents
import BoxArrow.Proofs.Layout.Renumbering
import Mathlib.Data.List.Perm.Subperm

/-!
# Placing in another order

What a figure is when it is placed depends on its declaration and on the content area that it
stands in, and not on its position in the forest. So the forests of the same declarations in
different orders hold the same figures, renumbered.

## Main definitions

* `Forest.rows` — the figures of a forest, with their containers by identifier
* `Forest.rowsOf`, `Forest.warningsOf` — the rows and the warnings of declarations
* `Forest.positionIn` — where another forest has the figure with the same identifier

## Main results

* `Forest.rows_place`, `Forest.warnings_place` — what placing declarations adds to a forest
* `Forest.exists_renumbers` — forests with the same rows differ in the positions alone
-/

namespace BoxArrow.Forest

/-- The identifier of a container and the origin of its content area. -/
abbrev Area := Option (String × Point)

/-- The content area that a figure stands in, if it has a container. -/
def areaOf (forest : Forest) (parent : Option Nat) : Area :=
  parent.bind fun p => forest[p]?.map fun container => (container.id, container.box.contentOrigin)

/-- A figure without its place in the forest, with the identifier of its container. -/
def rowOf (forest : Forest) (figure : Figure) : Figure × Option String :=
  (figure.alone, (forest.areaOf figure.parent).map Prod.fst)

/-- The figures of a forest with the identifiers of their containers. -/
def rows (forest : Forest) : List (Figure × Option String) := forest.map forest.rowOf

/-- The figure moved into a content area. -/
def putInto (area : Area) (figure : Figure) : Figure :=
  area.elim figure fun area => figure.move area.2

/-- The rows of declarations in a content area, each followed by what is inside it. -/
def rowsOf (catalog : Catalog) (area : Area) : List Declaration → List (Figure × Option String)
  | [] => []
  | d@{ children, .. } :: declarations =>
    let figure := putInto area (Figure.ofDeclaration catalog none d).1
    (figure.alone, area.map Prod.fst) ::
      (rowsOf catalog (some (d.name, figure.box.contentOrigin)) children ++
        rowsOf catalog area declarations)

/-- The warnings about the blocks of declarations and of what is inside them. -/
def warningsOf (catalog : Catalog) : List Declaration → List Warning
  | [] => []
  | d@{ children, .. } :: declarations =>
    (Figure.ofDeclaration catalog none d).2 ++
      (warningsOf catalog children ++ warningsOf catalog declarations)

theorem rowsOf_cons (catalog : Catalog) (area : Area) (d : Declaration)
    (declarations : List Declaration) :
    rowsOf catalog area (d :: declarations) =
      ((putInto area (Figure.ofDeclaration catalog none d).1).alone, area.map Prod.fst) ::
        (rowsOf catalog (some (d.name,
            (putInto area (Figure.ofDeclaration catalog none d).1).box.contentOrigin)) d.children ++
          rowsOf catalog area declarations) := by
  cases d
  rw [rowsOf]

theorem warningsOf_cons (catalog : Catalog) (d : Declaration) (declarations : List Declaration) :
    warningsOf catalog (d :: declarations) =
      (Figure.ofDeclaration catalog none d).2 ++
        (warningsOf catalog d.children ++ warningsOf catalog declarations) := by
  cases d
  rw [warningsOf]

variable {forest : Forest} {figure : Figure} {i : Nat}

section Push

theorem getElem?_push_of_lt (figure : Figure) (hi : i < forest.length) :
    ∃ children, (forest.push figure)[i]? =
      forest[i]?.map fun container => { container with children := children } := by
  unfold push
  split
  · refine ⟨(forest[i]?.map Figure.children).getD [], ?_⟩
    rw [List.getElem?_append_left hi, List.getElem?_eq_getElem hi]
    rfl
  · rename_i p _
    rw [List.getElem?_append_left (by simpa using hi), List.getElem?_modify,
      List.getElem?_eq_getElem hi]
    by_cases hp : p = i
    · exact ⟨forest[i].children ++ [forest.length], by simp [hp]⟩
    · exact ⟨forest[i].children, by simp [hp]⟩

theorem getElem?_push_length (hparent : ∀ p ∈ figure.parent, p < forest.length) :
    (forest.push figure)[forest.length]? = some (putInto (forest.areaOf figure.parent) figure) := by
  unfold push areaOf
  split
  · rename_i hnone
    rw [hnone]
    exact List.getElem?_concat_length
  · rename_i p hsome
    have hp := hparent p hsome
    rw [hsome, List.getElem?_append_right (by simp), List.length_modify, Nat.sub_self,
      Option.bind_some, List.getElem?_eq_getElem hp]
    rfl

theorem areaOf_push (parent : Option Nat) (hparent : ∀ p ∈ parent, p < forest.length) :
    (forest.push figure).areaOf parent = forest.areaOf parent := by
  cases parent with
  | none => rfl
  | some p =>
    obtain ⟨children, hget⟩ := getElem?_push_of_lt figure (hparent p rfl)
    unfold areaOf
    rw [Option.bind_some, Option.bind_some, hget, Option.map_map]
    rfl

theorem parent_putInto (area : Area) (figure : Figure) :
    (putInto area figure).parent = figure.parent := by
  cases area <;> rfl

theorem IsNested.lt_length_of_parent (hnested : forest.IsNested) (hi : forest[i]? = some figure) :
    ∀ p ∈ figure.parent, p < forest.length := by
  intro p hp
  have hparent : forest.parentOf i = some p := by
    rw [parentOf, hi]
    exact hp
  exact Nat.lt_trans (hnested.parent_lt i p hparent) (lt_length_of_parentOf hparent)

theorem rows_push (hnested : forest.IsNested) (hparent : ∀ p ∈ figure.parent, p < forest.length) :
    (forest.push figure).rows =
      forest.rows ++ [((putInto (forest.areaOf figure.parent) figure).alone,
        (forest.areaOf figure.parent).map Prod.fst)] := by
  refine List.ext_getElem? fun i => ?_
  unfold rows
  rw [List.getElem?_map]
  rcases Nat.lt_trichotomy i forest.length with hi | rfl | hi
  · -- A figure that was there before may be given a member, which does not show in its row.
    obtain ⟨children, hget⟩ := getElem?_push_of_lt figure hi
    have hold := List.getElem?_eq_getElem hi
    rw [List.getElem?_append_left (by simpa using hi), List.getElem?_map, hget, hold]
    have hparent' := hnested.lt_length_of_parent hold
    refine congrArg some (Prod.ext rfl ?_)
    exact congrArg (Option.map Prod.fst) (areaOf_push _ hparent')
  · rw [List.getElem?_append_right (by simp), List.length_map, Nat.sub_self,
      getElem?_push_length hparent]
    refine congrArg some (Prod.ext rfl ?_)
    rw [rowOf, parent_putInto]
    exact congrArg (Option.map Prod.fst) (areaOf_push _ hparent)
  · rw [List.getElem?_eq_none (by simp; omega), List.getElem?_eq_none (by simp; omega)]
    rfl

end Push

section Add

variable {catalog : Catalog} {parent parent' : Option Nat} {d : Declaration}
  {result : Forest × List Warning}

/-- The container of a declaration does not show in the figure apart from it. -/
theorem apart_putInto_ofDeclaration (f : Span → Span) (catalog : Catalog) (area : Area)
    (parent : Option Nat) (d : Declaration) :
    (putInto area (Figure.ofDeclaration catalog parent d).1).apart f =
      (putInto area (Figure.ofDeclaration catalog none d).1).apart f := by
  rw [Figure.ofDeclaration_eq catalog parent d]
  conv_rhs => rw [← Figure.reframe_ofDeclaration catalog none d]
  cases area <;> rfl

theorem rows_add (hnested : result.1.IsNested) (hparent : ∀ p ∈ parent, p < result.1.length) :
    (add catalog parent d result).1.rows =
      result.1.rows ++
        [((putInto (result.1.areaOf parent) (Figure.ofDeclaration catalog none d).1).alone,
          (result.1.areaOf parent).map Prod.fst)] := by
  have hrows := rows_push hnested (parent_lt_of_ofDeclaration catalog d hparent)
  rw [Figure.parent_ofDeclaration, Figure.alone, apart_putInto_ofDeclaration] at hrows
  exact hrows

theorem areaOf_add (hparent : ∀ p ∈ parent', p < result.1.length) :
    (add catalog parent d result).1.areaOf parent' = result.1.areaOf parent' :=
  areaOf_push parent' hparent

/-- The content area that the members of a declaration are put into. -/
theorem areaOf_add_self (hparent : ∀ p ∈ parent, p < result.1.length) :
    (add catalog parent d result).1.areaOf (some result.1.length) =
      some (d.name, (putInto (result.1.areaOf parent)
        (Figure.ofDeclaration catalog none d).1).box.contentOrigin) := by
  have hlast := getElem?_push_length (parent_lt_of_ofDeclaration catalog d hparent)
  rw [Figure.parent_ofDeclaration] at hlast
  have hapart := apart_putInto_ofDeclaration id catalog (result.1.areaOf parent) parent d
  have hid : (putInto (result.1.areaOf parent) (Figure.ofDeclaration catalog parent d).1).id =
      d.name := by
    rw [← Figure.id_ofDeclaration catalog parent d]
    cases result.1.areaOf parent <;> rfl
  have hbox : (putInto (result.1.areaOf parent) (Figure.ofDeclaration catalog parent d).1).box =
      (putInto (result.1.areaOf parent) (Figure.ofDeclaration catalog none d).1).box := by
    have hbox := congrArg Figure.box hapart
    exact hbox
  unfold areaOf
  rw [Option.bind_some, add, hlast, Option.map_some, hid, hbox]
  rfl

end Add

/-- What placing declarations adds to a forest. -/
theorem rows_place (catalog : Catalog) (declarations : List Declaration) :
    ∀ (parent : Option Nat) (result : Forest × List Warning), result.1.IsNested →
      (∀ p ∈ parent, p < result.1.length) →
        (place catalog parent declarations result).1.rows =
            result.1.rows ++ rowsOf catalog (result.1.areaOf parent) declarations ∧
          ∀ parent', (∀ p ∈ parent', p < result.1.length) →
            (place catalog parent declarations result).1.areaOf parent' =
              result.1.areaOf parent' := by
  induction declarations using Declaration.forest_induction with
  | nil =>
    intro parent result _ _
    rw [place, rowsOf, List.append_nil]
    exact ⟨rfl, fun _ _ => rfl⟩
  | cons d declarations ihchildren ih =>
    intro parent result hnested hparent
    rw [place_cons]
    have hadd := hnested.add catalog d hparent
    obtain ⟨hplaced, hle⟩ := place_spec catalog d.children _ _ hadd lt_length_add
    obtain ⟨hchildren, hkeep⟩ := ihchildren _ _ hadd lt_length_add
    rw [length_add] at hle
    -- Figures placed earlier stay, and what is placed later does not change their content areas.
    have hwithin : ∀ parent' : Option Nat, (∀ p ∈ parent', p < result.1.length) →
        ∀ p ∈ parent', p < (place catalog (some result.1.length) d.children
          (add catalog parent d result)).1.length := by
      intro parent' hparent' p hp
      have := hparent' p hp
      omega
    have harea : ∀ parent' : Option Nat, (∀ p ∈ parent', p < result.1.length) →
        (place catalog (some result.1.length) d.children
          (add catalog parent d result)).1.areaOf parent' = result.1.areaOf parent' := by
      intro parent' hparent'
      rw [hkeep parent' fun p hp => ?_, areaOf_add hparent']
      rw [length_add]
      exact Nat.lt_succ_of_lt (hparent' p hp)
    obtain ⟨hrest, hkeep'⟩ := ih parent _ hplaced (hwithin parent hparent)
    -- The rows are those before, that of `d`, those inside `d`, and those after `d`.
    constructor
    · rw [hrest, harea parent hparent, hchildren, rows_add hnested hparent,
        areaOf_add_self hparent, rowsOf_cons, List.append_assoc, List.append_assoc]
      rfl
    · intro parent' hparent'
      rw [hkeep' parent' (hwithin parent' hparent'), harea parent' hparent']

/-- The warnings about the blocks of declarations. -/
theorem warnings_place (catalog : Catalog) (declarations : List Declaration) :
    ∀ (parent : Option Nat) (result : Forest × List Warning),
      (place catalog parent declarations result).2 =
        result.2 ++ warningsOf catalog declarations := by
  induction declarations using Declaration.forest_induction with
  | nil =>
    intro parent result
    rw [place, warningsOf, List.append_nil]
  | cons d declarations ihchildren ih =>
    intro parent result
    have hown : (Figure.ofDeclaration catalog parent d).2 =
        (Figure.ofDeclaration catalog none d).2 := by rw [Figure.ofDeclaration_eq]
    rw [place_cons, ih, ihchildren, add, hown, warningsOf_cons, List.append_assoc,
      List.append_assoc]

/-! ### The same rows in another order -/

section Rows

variable {forest' : Forest} {id : String}

theorem map_id_rows (forest : Forest) :
    forest.rows.map (fun row => row.1.id) = forest.map Figure.id := by
  rw [rows, List.map_map]
  rfl

/-- If no two figures have the same identifier, the index finds all of them. -/
theorem get?_lastIndex_eq_some_iff (hids : (forest.map Figure.id).Nodup) :
    forest.lastIndex.get? id = some i ↔ ∃ figure, forest[i]? = some figure ∧ figure.id = id := by
  refine ⟨getElem?_of_get?_lastIndex, ?_⟩
  rintro ⟨figure, hi, hid⟩
  have hentry : (id, i) ∈ (forest.map Figure.id).zipIdx := by
    rw [List.mem_zipIdx_iff_getElem?, List.getElem?_map, hi, Option.map_some, hid]
  have hfound : (forest.lastIndex.get? id).isSome := by
    rw [lastIndex, OrderedMap.get?_ofList, Option.isSome_map, List.find?_isSome]
    exact ⟨_, List.mem_reverse.2 hentry, decide_eq_true rfl⟩
  obtain ⟨j, hj⟩ := Option.isSome_iff_exists.1 hfound
  obtain ⟨figure', hj', hid'⟩ := getElem?_of_get?_lastIndex hj
  -- The figure that is found bears the same identifier, and no two figures do.
  have heq : (forest.map Figure.id)[i]? = (forest.map Figure.id)[j]? := by
    rw [List.getElem?_map, List.getElem?_map, hi, hj', Option.map_some, Option.map_some, hid, hid']
  have hlt : i < (forest.map Figure.id).length := by
    rw [List.length_map]
    exact (List.getElem?_eq_some_iff.1 hi).1
  rw [hj, (List.getElem?_inj hlt hids).1 heq]

theorem exists_figure_of_areaOf (hparent : ∀ p ∈ figure.parent, p < forest.length) :
    (∃ p container, figure.parent = some p ∧ forest[p]? = some container ∧
        (forest.areaOf figure.parent).map Prod.fst = some container.id) ∨
      (figure.parent = none ∧ (forest.areaOf figure.parent).map Prod.fst = none) := by
  cases hp : figure.parent with
  | none => exact .inr ⟨rfl, rfl⟩
  | some p =>
    have hget := List.getElem?_eq_getElem (hparent p hp)
    refine .inl ⟨p, _, rfl, hget, ?_⟩
    rw [areaOf, Option.bind_some, hget]
    rfl

/-- The position in another forest of the last figure with the same identifier. -/
def positionIn (forest' forest : Forest) (i : Nat) : Nat :=
  ((forest[i]?.map Figure.id).bind forest'.lastIndex.get?).getD 0

section Positions

variable (hids : (forest.map Figure.id).Nodup) (hids' : (forest'.map Figure.id).Nodup)
  (hrows : forest.rows.Perm forest'.rows)
include hids' hrows

/-- A figure is found again, with its row, by its identifier. -/
theorem exists_getElem?_positionIn (hi : forest[i]? = some figure) :
    ∃ figure', forest'[forest'.positionIn forest i]? = some figure' ∧
      forest'.rowOf figure' = forest.rowOf figure ∧
        forest'.lastIndex.get? figure.id = some (forest'.positionIn forest i) := by
  have hrow : forest.rowOf figure ∈ forest'.rows :=
    hrows.subset (List.mem_map_of_mem (List.mem_of_getElem? hi))
  obtain ⟨figure', hmem, heq⟩ := List.mem_map.1 hrow
  obtain ⟨j, hj⟩ := List.mem_iff_getElem?.1 hmem
  have hid : figure'.id = figure.id := congrArg (fun row => row.1.id) heq
  have hget := (get?_lastIndex_eq_some_iff hids').2 ⟨figure', hj, hid⟩
  have hposition : forest'.positionIn forest i = j := by
    rw [positionIn, hi, Option.map_some, Option.bind_some, hget]
    rfl
  rw [hposition]
  exact ⟨figure', hj, heq, hget⟩

/-- The containers of figures with the same row are found by their identifier, too. -/
theorem parent_eq_map_positionIn {figure' : Figure}
    (hparent : ∀ p ∈ figure.parent, p < forest.length)
    (hparent' : ∀ p ∈ figure'.parent, p < forest'.length)
    (hrow : forest'.rowOf figure' = forest.rowOf figure) :
    figure'.parent = figure.parent.map (forest'.positionIn forest) := by
  have harea : (forest'.areaOf figure'.parent).map Prod.fst =
      (forest.areaOf figure.parent).map Prod.fst := congrArg Prod.snd hrow
  -- The rows tell whether there is a container, and which identifier it has.
  rcases exists_figure_of_areaOf hparent with ⟨p, container, hp, hget, hid⟩ | ⟨hp, hnone⟩
  · rcases exists_figure_of_areaOf hparent' with
      ⟨p', container', hp', hget', hid'⟩ | ⟨-, hnone'⟩
    · obtain ⟨-, -, -, hfound⟩ := exists_getElem?_positionIn hids' hrows hget
      have hsame : container'.id = container.id :=
        Option.some.inj (hid'.symm.trans (harea.trans hid))
      have hfound' := (get?_lastIndex_eq_some_iff hids').2 ⟨container', hget', hsame⟩
      rw [hp, hp', Option.map_some, Option.some.inj (hfound'.symm.trans hfound)]
    · exact absurd (hnone'.symm.trans (harea.trans hid)) (Option.some_ne_none _).symm
  · rcases exists_figure_of_areaOf hparent' with ⟨p', container', hp', hget', hid'⟩ | ⟨hp', -⟩
    · exact absurd (hid'.symm.trans (harea.trans hnone)) (Option.some_ne_none _)
    · rw [hp, hp', Option.map_none]

include hids

theorem positionIn_injOn {j : Nat} (hi : i < forest.length) (hj : j < forest.length)
    (heq : forest'.positionIn forest i = forest'.positionIn forest j) : i = j := by
  have hgeti := List.getElem?_eq_getElem hi
  have hgetj := List.getElem?_eq_getElem hj
  obtain ⟨figure, hfigure, hrowi, -⟩ := exists_getElem?_positionIn hids' hrows hgeti
  obtain ⟨figure', hfigure', hrowj, -⟩ := exists_getElem?_positionIn hids' hrows hgetj
  -- Both positions are found again at the same figure, so they have one identifier.
  have hsame : figure = figure' := Option.some.inj (hfigure.symm.trans (heq ▸ hfigure'))
  have hid := congrArg (fun row => row.1.id) (hrowi.symm.trans (hsame ▸ hrowj))
  have hi' := (get?_lastIndex_eq_some_iff hids).2 ⟨_, hgeti, hid⟩
  have hj' := (get?_lastIndex_eq_some_iff hids).2 ⟨_, hgetj, rfl⟩
  exact Option.some.inj (hi'.symm.trans hj')

theorem map_positionIn_range_perm :
    ((List.range forest.length).map (forest'.positionIn forest)).Perm
      (List.range forest'.length) := by
  have hnodup : ((List.range forest.length).map (forest'.positionIn forest)).Nodup :=
    List.Nodup.map_on (fun i hi j hj => positionIn_injOn hids hids' hrows (List.mem_range.1 hi)
      (List.mem_range.1 hj)) List.nodup_range
  have hsubset : (List.range forest.length).map (forest'.positionIn forest) ⊆
      List.range forest'.length := by
    intro j hj
    obtain ⟨i, hi, rfl⟩ := List.mem_map.1 hj
    obtain ⟨figure', hfigure', -⟩ := exists_getElem?_positionIn hids' hrows
      (List.getElem?_eq_getElem (List.mem_range.1 hi))
    exact List.mem_range.2 (List.getElem?_eq_some_iff.1 hfigure').1
  have hlength := hrows.length_eq
  rw [rows, rows, List.length_map, List.length_map] at hlength
  -- Distinct positions, as many as there are, are all of them.
  refine (List.subperm_of_subset hnodup hsubset).perm_of_length_le ?_
  rw [List.length_map, List.length_range, List.length_range]
  exact Nat.le_of_eq hlength.symm

theorem get?_lastIndex_positionIn (id : String) :
    forest'.lastIndex.get? id = (forest.lastIndex.get? id).map (forest'.positionIn forest) := by
  cases hget : forest.lastIndex.get? id with
  | some i =>
    obtain ⟨figure, hi, rfl⟩ := getElem?_of_get?_lastIndex hget
    obtain ⟨-, -, -, hget'⟩ := exists_getElem?_positionIn hids' hrows hi
    exact hget'
  | none =>
    -- An identifier of the other forest would be one of this forest.
    rw [Option.map_none, Option.eq_none_iff_forall_ne_some]
    intro j hj
    obtain ⟨figure', hj', rfl⟩ := getElem?_of_get?_lastIndex hj
    obtain ⟨-, -, -, hget'⟩ := exists_getElem?_positionIn hids hrows.symm hj'
    exact Option.some_ne_none _ (hget'.symm.trans hget)

end Positions

/-- Forests with the same rows, up to order, differ in the positions alone. -/
theorem exists_renumbers (hnested : forest.IsNested) (hnested' : forest'.IsNested)
    (hids : (forest.map Figure.id).Nodup) (hrows : forest.rows.Perm forest'.rows) :
    ∃ σ, Renumbers σ forest forest' ∧
      ∀ id, forest'.lastIndex.get? id = (forest.lastIndex.get? id).map σ := by
  have hids' : (forest'.map Figure.id).Nodup := by
    rw [← map_id_rows] at hids ⊢
    exact (hrows.map _).nodup_iff.1 hids
  refine ⟨forest'.positionIn forest, ⟨fun i figure hi => ?_, ?_⟩, ?_⟩
  · obtain ⟨figure', hi', hrow, -⟩ := exists_getElem?_positionIn hids' hrows hi
    exact ⟨figure', hi', congrArg Prod.fst hrow,
      parent_eq_map_positionIn hids' hrows (hnested.lt_length_of_parent hi)
        (hnested'.lt_length_of_parent hi') hrow⟩
  · rw [List.append_nil]
    exact map_positionIn_range_perm hids hids' hrows
  · exact get?_lastIndex_positionIn hids hids' hrows

end Rows

end BoxArrow.Forest
