import BoxArrow.Proofs.Layout.Origin

/-!
# Forests with figures put in

A declaration is put in among others, or among the members of one of them. The figures of what was
there before are placed as before, and those behind the new figures stand further back.

## Main definitions

* `Declaration.Inserts` — declarations with a further one among them or inside one of them
* `Forest.skip` — positions after figures are put in
* `Forest.Gains` — a forest with the figures of a declaration put in
* `Forest.PutsIn` — placing other declarations puts in the figures of a further one

## Main results

* `Forest.Embeds.place` — figures placed in forests that correspond do so, too
* `Forest.Embeds.place_right` — figures placed in the larger forest alone are extra ones
* `Declaration.Inserts.exists_gains` — the figures are those before, with the new ones put in
* `Declaration.Inserts.warningsOf_perm` — so are the warnings about their blocks
-/

namespace BoxArrow

/-- Declarations with a further one, at any position among them or among the members of one. -/
inductive Declaration.Inserts (added : Declaration) :
    List Declaration → List Declaration → Prop
  | here (declarations : List Declaration) : Inserts added declarations (added :: declarations)
  | later (d : Declaration) {declarations declarations' : List Declaration} :
      Inserts added declarations declarations' →
        Inserts added (d :: declarations) (d :: declarations')
  | inside (d : Declaration) (declarations : List Declaration) {children : List Declaration} :
      Inserts added d.children children →
        Inserts added (d :: declarations) ({ d with children := children } :: declarations)

namespace Forest

/-- The position of a figure after others are put in at a position. -/
def skip (position count i : Nat) : Nat := if i < position then i else i + count

theorem skip_of_lt {position i : Nat} (h : i < position) (count : Nat) :
    skip position count i = i :=
  if_pos h

theorem skip_of_le {position i : Nat} (h : position ≤ i) (count : Nat) :
    skip position count i = i + count :=
  if_neg (Nat.not_lt.2 h)

theorem skip_le_skip {i j : Nat} (h : i ≤ j) (position count : Nat) :
    skip position count i ≤ skip position count j := by
  unfold skip
  split <;> split <;> omega

theorem map_skip_of_lt {position : Nat} {parent : Option Nat} (h : ∀ p ∈ parent, p < position)
    (count : Nat) : parent.map (skip position count) = parent := by
  cases parent with
  | none => rfl
  | some p => rw [Option.map_some, skip_of_lt (h p rfl)]

theorem place_append (catalog : Catalog) (parent : Option Nat)
    (declarations declarations' : List Declaration) (result : Forest × List Warning) :
    place catalog parent (declarations ++ declarations') result =
      place catalog parent declarations' (place catalog parent declarations result) := by
  induction declarations generalizing result with
  | nil =>
    rw [place]
    rfl
  | cons d declarations ih => rw [List.cons_append, place_cons, place_cons, ih]

namespace Embeds

variable {f : Span → Span} {σ : Nat → Nat} {extra : List Nat} {forest forest' : Forest}
  {figure figure' : Figure} {catalog : Catalog} {parent : Option Nat} {d : Declaration}
  {result result' : Forest × List Warning}

/-- A forest corresponds to itself before anything is put in behind it. -/
theorem refl_skip (hnested : forest.IsNested) {position : Nat} (h : forest.length ≤ position)
    (count : Nat) : Embeds f (skip position count) [] forest forest where
  exists_figure i figure hi := by
    have hlt := Nat.lt_of_lt_of_le (List.getElem?_eq_some_iff.1 hi).1 h
    have hparent : ∀ p ∈ figure.parent, p < position := fun p hp =>
      Nat.lt_of_lt_of_le (hnested.lt_length_of_parent hi p hp) h
    exact ⟨figure, by rw [skip_of_lt hlt, hi], rfl, (map_skip_of_lt hparent count).symm⟩
  perm_range := by
    have hskip : (List.range forest.length).map (skip position count) =
        (List.range forest.length).map id :=
      List.map_congr_left fun i hi => skip_of_lt (Nat.lt_of_lt_of_le (List.mem_range.1 hi) h) count
    rw [List.append_nil, hskip, List.map_id]

theorem areaOf (h : Embeds f σ extra forest forest') (hparent : ∀ p ∈ parent, p < forest.length) :
    forest'.areaOf (parent.map σ) = forest.areaOf parent := by
  cases parent with
  | none => rfl
  | some p =>
    obtain ⟨container, container', hget, hget', hapart, -⟩ := h.figure_of_lt (hparent p rfl)
    obtain ⟨hid, -, -, hbox, -⟩ := Figure.eq_of_apart_eq hapart
    unfold Forest.areaOf
    rw [Option.map_some, Option.bind_some, Option.bind_some, hget, hget', Option.map_some,
      Option.map_some, hid, hbox]

/-- A figure placed in the larger forest alone is an extra one. -/
theorem push_right (h : Embeds f σ extra forest forest') (figure : Figure) :
    Embeds f σ (extra ++ [forest'.length]) forest (forest'.push figure) where
  exists_figure i old hi := by
    obtain ⟨old', hi', hapart, hcontainer⟩ := h.exists_figure i old hi
    obtain ⟨children, hget⟩ := getElem?_push_of_lt figure (List.getElem?_eq_some_iff.1 hi').1
    rw [hi'] at hget
    exact ⟨_, hget, hapart, hcontainer⟩
  perm_range := by
    rw [length_push, List.range_succ, ← List.append_assoc]
    exact h.perm_range.append_right _

/-- Figures that are placed in the same content area correspond. -/
theorem push (h : Embeds f σ extra forest forest') (hnext : σ forest.length = forest'.length)
    (hparent : ∀ p ∈ figure.parent, p < forest.length)
    (hcontainer : figure'.parent = figure.parent.map σ)
    (hplaced : (putInto (forest.areaOf figure.parent) figure').apart f =
      (putInto (forest.areaOf figure.parent) figure).apart f) :
    Embeds f σ extra (forest.push figure) (forest'.push figure') where
  exists_figure i placed hi := by
    have hi' := (List.getElem?_eq_some_iff.1 hi).1
    rw [length_push] at hi'
    rcases Nat.lt_or_eq_of_le (Nat.le_of_lt_succ hi') with hlt | rfl
    · -- A figure that was there before may be given a member, which does not show in it apart.
      obtain ⟨old, old', hold, hold', hapart, holdParent⟩ := h.figure_of_lt hlt
      obtain ⟨children, hget⟩ := getElem?_push_of_lt figure hlt
      obtain ⟨children', hget'⟩ := getElem?_push_of_lt figure' (h.lt_length hlt)
      rw [hold, hi] at hget
      rw [hold'] at hget'
      cases hget
      exact ⟨_, hget', hapart, holdParent⟩
    -- The new figure is the last one of both forests, in areas that correspond.
    · have hparent' : ∀ p ∈ figure'.parent, p < forest'.length := by
        rw [hcontainer]
        intro p hp
        obtain ⟨q, hq, rfl⟩ := Option.map_eq_some_iff.1 hp
        exact h.lt_length (hparent q hq)
      have hlast := getElem?_push_length hparent'
      rw [hcontainer, h.areaOf hparent] at hlast
      rw [getElem?_push_length hparent] at hi
      cases hi
      refine ⟨_, by rw [hnext, hlast], hplaced, ?_⟩
      rw [parent_putInto, parent_putInto, hcontainer]
  perm_range := by
    rw [length_push, length_push, List.range_succ, List.range_succ, List.map_append,
      List.map_singleton, hnext, List.append_assoc]
    refine (List.Perm.append_left _ List.perm_append_comm).trans ?_
    rw [← List.append_assoc]
    exact h.perm_range.append_right _

theorem add (catalog : Catalog) (d : Declaration) (h : Embeds f σ extra result.1 result'.1)
    (hnext : σ result.1.length = result'.1.length) (hparent : ∀ p ∈ parent, p < result.1.length) :
    Embeds f σ extra (Forest.add catalog parent d result).1
      (Forest.add catalog (parent.map σ) d result').1 := by
  refine h.push hnext (parent_lt_of_ofDeclaration catalog d hparent) ?_ ?_
  · rw [Figure.parent_ofDeclaration, Figure.parent_ofDeclaration]
  · rw [apart_putInto_ofDeclaration, apart_putInto_ofDeclaration f catalog _ parent]

/-- Declarations placed in forests that correspond, behind the figures of both, have figures that
correspond. -/
theorem place (catalog : Catalog) (declarations : List Declaration) :
    ∀ {parent : Option Nat} {result result' : Forest × List Warning},
      Embeds f σ extra result.1 result'.1 → (∀ p ∈ parent, p < result.1.length) →
        (∀ j, σ (result.1.length + j) = result'.1.length + j) →
          Embeds f σ extra (Forest.place catalog parent declarations result).1
            (Forest.place catalog (parent.map σ) declarations result').1 := by
  induction declarations using Declaration.forest_induction with
  | nil =>
    intro parent result result' h _ _
    rw [Forest.place, Forest.place]
    exact h
  | cons d declarations ihchildren ih =>
    intro parent result result' h hparent hnext
    have hself : σ result.1.length = result'.1.length := hnext 0
    have hcontainer : some result'.1.length = (some result.1.length).map σ := by
      rw [Option.map_some, hself]
    rw [place_cons, place_cons, hcontainer]
    -- The members go into the container that has just been added, the rest behind them all.
    have hinner := ihchildren (h.add catalog d hself hparent) lt_length_add
      fun j => by
        rw [length_add, length_add, Nat.add_assoc, Nat.add_assoc]
        exact hnext (1 + j)
    refine ih hinner (fun p hp => ?_) fun j => ?_
    · have := hparent p hp
      rw [length_place, length_add]
      omega
    · rw [length_place, length_place, length_add, length_add]
      simp only [Nat.add_assoc]
      exact hnext _

/-- The figures of declarations placed in the larger forest alone are extra ones. -/
theorem place_right (catalog : Catalog) (declarations : List Declaration) :
    ∀ {extra : List Nat} (parent : Option Nat) {result : Forest × List Warning},
      Embeds f σ extra forest result.1 →
        Embeds f σ (extra ++ List.range' result.1.length (Declaration.all declarations).length)
          forest (Forest.place catalog parent declarations result).1 := by
  induction declarations using Declaration.forest_induction with
  | nil =>
    intro extra parent result h
    rw [Forest.place, Declaration.all, List.length_nil, List.range'_zero, List.append_nil]
    exact h
  | cons d declarations ihchildren ih =>
    intro extra parent result h
    have hself : Embeds f σ _ forest (Forest.add catalog parent d result).1 := h.push_right _
    have hinner := ihchildren (some result.1.length) hself
    have hrest := ih parent hinner
    rw [place_cons]
    convert hrest using 1
    rw [length_place, length_add, Declaration.all_cons, List.length_cons, List.length_append,
      List.append_assoc, List.append_assoc, List.range'_append_1, List.range'_succ]
    rfl

/-- An identifier that no extra figure bears is found in the position that its figure has now. -/
theorem get?_lastIndex (h : Embeds f σ extra forest forest')
    (hσ : ∀ i j, i ≤ j → σ i ≤ σ j) {id : String}
    (hextra : ∀ i ∈ extra, ∀ figure, forest'[i]? = some figure → figure.id ≠ id) :
    forest'.lastIndex.get? id = (forest.lastIndex.get? id).map σ := by
  -- What bears the identifier in the larger forest comes from the smaller one, in its order.
  have hback : ∀ (j : Nat) (figure' : Figure), forest'[j]? = some figure' → figure'.id = id →
      ∃ (i : Nat) (figure : Figure), forest[i]? = some figure ∧ σ i = j ∧ figure.id = id := by
    intro j figure' hj hid
    have hmem := h.perm_range.mem_iff.2 (List.mem_range.2 (List.getElem?_eq_some_iff.1 hj).1)
    rcases List.mem_append.1 hmem with hmem | hmem
    · obtain ⟨i, hi, rfl⟩ := List.mem_map.1 hmem
      obtain ⟨figure, other, hfigure, hother, hapart, -⟩ := h.figure_of_lt (List.mem_range.1 hi)
      cases hj.symm.trans hother
      exact ⟨i, figure, hfigure, rfl, (Figure.eq_of_apart_eq hapart).1.symm.trans hid⟩
    · exact absurd hid (hextra j hmem figure' hj)
  cases hget : forest.lastIndex.get? id with
  | some i =>
    obtain ⟨⟨figure, hi, hid⟩, hlast⟩ := isLast_of_get?_lastIndex hget
    obtain ⟨figure', hi', hapart, -⟩ := h.exists_figure i figure hi
    rw [Option.map_some, get?_lastIndex_eq_some_iff_isLast]
    refine ⟨⟨figure', hi', (Figure.eq_of_apart_eq hapart).1.trans hid⟩, ?_⟩
    intro j figure'' hj hid'
    obtain ⟨k, old, hk, rfl, hold⟩ := hback j figure'' hj hid'
    exact hσ k i (hlast k old hk hold)
  | none =>
    rw [Option.map_none, get?_lastIndex_eq_none_iff]
    intro figure' hmem hid
    obtain ⟨j, hj⟩ := List.mem_iff_getElem?.1 hmem
    obtain ⟨i, figure, hi, -, hid'⟩ := hback j figure' hj hid
    exact get?_lastIndex_eq_none_iff.1 hget figure (List.mem_of_getElem? hi) hid'

end Embeds

/-- A forest is another one with figures put in at a position: those of a declaration and of all
that is inside it. -/
structure Gains (catalog : Catalog) (added : Declaration) (position : Nat)
    (forest forest' : Forest) : Prop where
  embeds : Embeds id (skip position (Declaration.all [added]).length)
    (List.range' position (Declaration.all [added]).length) forest forest'
  position_le : position ≤ forest.length
  exists_declaration : ∀ i ∈ List.range' position (Declaration.all [added]).length,
    ∀ figure, forest'[i]? = some figure → ∃ d ∈ Declaration.all [added],
      figure.signature = (Figure.ofDeclaration catalog none d).1.signature

/-- Whatever is there already, placing the second declarations instead of the first ones puts in the
figures of a further one, and of what is inside it, behind those of the first `count` ones. -/
structure PutsIn (catalog : Catalog) (added : Declaration) (count : Nat)
    (declarations declarations' : List Declaration) : Prop where
  count_le : count ≤ (Declaration.all declarations).length
  embeds : ∀ (parent : Option Nat) (result : Forest × List Warning), result.1.IsNested →
    (∀ p ∈ parent, p < result.1.length) →
      Embeds id (skip (result.1.length + count) (Declaration.all [added]).length)
        (List.range' (result.1.length + count) (Declaration.all [added]).length)
        (place catalog parent declarations result).1 (place catalog parent declarations' result).1

namespace PutsIn

variable {catalog : Catalog} {added : Declaration} {count : Nat}
  {declarations declarations' : List Declaration}

theorem here (catalog : Catalog) (added : Declaration) (declarations : List Declaration) :
    PutsIn catalog added 0 declarations (added :: declarations) where
  count_le := Nat.zero_le _
  embeds parent result hnested hparent := by
    have hself := Embeds.refl_skip (f := id) hnested (Nat.le_refl result.1.length)
      (Declaration.all [added]).length
    have hadded := hself.place_right catalog [added] parent
    have hrest := hadded.place catalog declarations hparent fun j => by
      rw [skip_of_le (Nat.le_add_right _ j), length_place]
      exact Nat.add_right_comm _ _ _
    rw [map_skip_of_lt hparent, ← place_append] at hrest
    exact hrest

theorem later (h : PutsIn catalog added count declarations declarations') (d : Declaration) :
    PutsIn catalog added ((Declaration.all d.children).length + 1 + count) (d :: declarations)
      (d :: declarations') where
  count_le := by
    have hle := h.count_le
    rw [Declaration.all_cons, List.length_cons, List.length_append]
    omega
  embeds parent result hnested hparent := by
    have hadd := hnested.add catalog d hparent
    obtain ⟨hplaced, -⟩ := place_spec catalog d.children _ _ hadd lt_length_add
    have hrest := h.embeds parent _ hplaced fun p hp => by
      have hlt := hparent p hp
      rw [length_place, length_add]
      omega
    have hposition : result.1.length + ((Declaration.all d.children).length + 1 + count) =
        (place catalog (some result.1.length) d.children (add catalog parent d result)).1.length +
          count := by
      rw [length_place, length_add]
      omega
    rw [place_cons, place_cons, hposition]
    exact hrest

theorem inside {d : Declaration} {children : List Declaration}
    (h : PutsIn catalog added count d.children children) (declarations : List Declaration) :
    PutsIn catalog added (count + 1) (d :: declarations)
      ({ d with children := children } :: declarations) where
  count_le := by
    have hle := h.count_le
    rw [Declaration.all_cons, List.length_cons, List.length_append]
    omega
  embeds parent result hnested hparent := by
    have hadd := hnested.add catalog d hparent
    have hinner := h.embeds (some result.1.length) _ hadd lt_length_add
    rw [length_add, Nat.add_assoc, Nat.add_comm 1] at hinner
    have hle := h.count_le
    have hlength := hinner.perm_range.length_eq
    simp only [List.length_append, List.length_map, List.length_range, List.length_range',
      length_place, length_add] at hlength
    have hbehind : ∀ p ∈ parent, p < result.1.length + (count + 1) := fun p hp =>
      Nat.lt_add_right _ (hparent p hp)
    -- Everything that is placed behind the container stands behind the new figures, too.
    have hrest := hinner.place catalog declarations
      (fun p hp => by
        have hlt := hparent p hp
        rw [length_place, length_add]
        omega)
      fun j => by
        rw [skip_of_le (by rw [length_place, length_add]; omega), length_place, length_place,
          length_add]
        omega
    rw [map_skip_of_lt hbehind] at hrest
    rw [place_cons, place_cons]
    exact hrest

end PutsIn

end Forest

namespace Declaration.Inserts

open Forest

variable {added : Declaration} {declarations declarations' : List Declaration}

/-- Wherever a declaration is put in, its figures are. -/
theorem exists_putsIn (catalog : Catalog) (h : Inserts added declarations declarations') :
    ∃ before after, all declarations' = before ++ (all [added] ++ after) ∧
      PutsIn catalog added before.length declarations declarations' := by
  induction h with
  | here declarations =>
    exact ⟨[], all declarations, all_append [added] declarations, .here ..⟩
  | later d _ ih =>
    obtain ⟨before, after, hall, hputsIn⟩ := ih
    refine ⟨d :: all d.children ++ before, after, ?_, ?_⟩
    · rw [all_cons, hall]
      simp only [List.cons_append, List.append_assoc]
    · rw [List.length_append, List.length_cons]
      exact hputsIn.later d
  | @inside d declarations children _ ih =>
    obtain ⟨before, after, hall, hputsIn⟩ := ih
    refine ⟨{ d with children := children } :: before, after ++ all declarations, ?_,
      hputsIn.inside declarations⟩
    rw [all_cons, hall]
    simp only [List.cons_append, List.append_assoc]

/-- The figures of declarations with a further one are those before, with its figure and those of
what is inside it put in. -/
theorem exists_gains (catalog : Catalog) (h : Inserts added declarations declarations') :
    ∃ position, Gains catalog added position (place catalog none declarations ([], [])).1
      (place catalog none declarations' ([], [])).1 := by
  obtain ⟨before, after, hall, hputsIn⟩ := h.exists_putsIn catalog
  have hembeds := hputsIn.embeds none ([], []) isNested_nil nofun
  rw [List.length_nil, Nat.zero_add] at hembeds
  have hsignature := map_signature_place catalog declarations' none ([], [])
  refine ⟨before.length, hembeds, ?_, fun i hi figure hfigure => ?_⟩
  · rw [length_place, List.length_nil, Nat.zero_add]
    exact hputsIn.count_le
  · -- The figures of the new declarations stand in the order of these.
    obtain ⟨hle, hlt⟩ := List.mem_range'_1.1 hi
    have hget := congrArg (·[i]?) hsignature
    simp only [List.map_nil, List.nil_append, List.getElem?_map, hfigure, hall] at hget
    rw [List.getElem?_append_right hle, List.getElem?_append_left (by omega)] at hget
    obtain ⟨d, hd, heq⟩ := Option.map_eq_some_iff.1 hget.symm
    exact ⟨d, List.mem_of_getElem? hd, heq.symm⟩

/-- The warnings about blocks are those before, besides those about the new declaration. -/
theorem warningsOf_perm (catalog : Catalog) (h : Inserts added declarations declarations') :
    (warningsOf catalog declarations').Perm
      (warningsOf catalog declarations ++ warningsOf catalog [added]) := by
  induction h with
  | here declarations =>
    rw [warningsOf_cons, warningsOf_cons, warningsOf, List.append_nil, ← List.append_assoc]
    exact List.perm_append_comm
  | later d _ ih =>
    rw [warningsOf_cons, warningsOf_cons, List.append_assoc, List.append_assoc]
    exact (ih.append_left _).append_left _
  | inside d declarations _ ih =>
    rw [warningsOf_cons, warningsOf_cons, List.append_assoc, List.append_assoc]
    refine List.Perm.append_left _ ((ih.append_right _).trans ?_)
    rw [List.append_assoc]
    exact List.perm_append_comm.append_left _

end Declaration.Inserts

end BoxArrow
