import BoxArrow.Layout.Forest
import BoxArrow.Proofs.Layout.Figure
import Mathlib.Data.List.Nodup

/-!
# Nested forests

In the forest of a diagram, every figure stands after its container, and the members that a
container lists are just the figures that name it. So what moves with a figure are the figures
that it contains, each once.

## Main definitions

* `Forest.parentOf`, `Forest.childrenOf` — the container and the members of a figure
* `Forest.IsNested` — containers come first and know their members
* `Forest.containers` — all containers of a figure, outermost first
* `Forest.withBoxes` — the same forest with other boxes

## Main results

* `Forest.isNested_place` — declarations are placed as nested forests
* `Forest.withBoxes_move` — a figure is moved with all the figures that it contains
-/

namespace BoxArrow

/-- Induction over declarations and all that is inside them. -/
theorem Declaration.forest_induction {motive : List Declaration → Prop} (nil : motive [])
    (cons : ∀ d declarations, motive d.children → motive declarations →
      motive (d :: declarations)) :
    ∀ declarations, motive declarations
  | [] => nil
  | ⟨_, _, _, _, _, _, _, children⟩ :: declarations =>
    cons _ declarations (forest_induction nil cons children)
      (forest_induction nil cons declarations)

namespace Forest

/-- The container of a figure. -/
def parentOf (forest : Forest) (i : Nat) : Option Nat := forest[i]?.bind Figure.parent

/-- The members of a figure. -/
def childrenOf (forest : Forest) (i : Nat) : List Nat := (forest[i]?.map Figure.children).getD []

/-- The box of a figure. -/
def boxOf (forest : Forest) (i : Nat) : Box := (forest[i]?.map Figure.box).getD default

/-- Containers come before their members, and list each of them once. -/
structure IsNested (forest : Forest) : Prop where
  parent_lt : ∀ i p, forest.parentOf i = some p → p < i
  mem_childrenOf_iff : ∀ i p, i ∈ forest.childrenOf p ↔ forest.parentOf i = some p
  nodup_childrenOf : ∀ p, (forest.childrenOf p).Nodup

/-- All containers of a figure, outermost first. -/
def containers (forest : Forest) (i : Nat) : List Nat :=
  match forest.parentOf i with
  | none => []
  | some p => if p < i then containers forest p ++ [p] else []
termination_by i

variable {forest : Forest} {i j k p q : Nat}

theorem lt_length_of_parentOf (h : forest.parentOf i = some p) : i < forest.length := by
  obtain ⟨figure, hi, -⟩ := Option.bind_eq_some_iff.1 h
  exact (List.getElem?_eq_some_iff.1 hi).1

section Containers

theorem containers_of_none (h : forest.parentOf i = none) : forest.containers i = [] := by
  rw [containers, h]

theorem containers_of_some (hnested : forest.IsNested) (h : forest.parentOf i = some p) :
    forest.containers i = forest.containers p ++ [p] := by
  rw [containers, h]
  exact if_pos (hnested.parent_lt i p h)

/-- The containers of a figure only depend on the figures up to it. -/
theorem containers_congr_of_le {forest' : Forest}
    (h : ∀ j ≤ i, forest'.parentOf j = forest.parentOf j) :
    forest'.containers i = forest.containers i := by
  induction i using Nat.strongRecOn with
  | ind i ih =>
    rw [containers, containers, h i (Nat.le_refl i)]
    cases forest.parentOf i with
    | none => rfl
    | some p =>
      by_cases hp : p < i
      · simp only [if_pos hp, ih p hp fun j hj => h j (by omega)]
      · simp only [if_neg hp]

/-- Containers only depend on which figure stands in which. -/
theorem containers_congr {forest' : Forest} (h : forest'.parentOf = forest.parentOf) (i : Nat) :
    forest'.containers i = forest.containers i :=
  containers_congr_of_le fun j _ => congrFun h j

namespace IsNested

/-- Induction from the containers to what is inside them. -/
theorem induction_on (h : forest.IsNested) {motive : Nat → Prop}
    (top : ∀ i, forest.parentOf i = none → motive i)
    (inner : ∀ i p, forest.parentOf i = some p → motive p → motive i) (i : Nat) : motive i := by
  induction i using Nat.strongRecOn with
  | ind i ih =>
    cases hp : forest.parentOf i with
    | none => exact top i hp
    | some p => exact inner i p hp (ih p (h.parent_lt i p hp))

theorem mem_containers_of_some (h : forest.IsNested) (hp : forest.parentOf i = some p) :
    q ∈ forest.containers i ↔ q = p ∨ q ∈ forest.containers p := by
  rw [containers_of_some h hp, List.mem_append, List.mem_singleton, or_comm]

theorem mem_containers_iff (h : forest.IsNested) :
    q ∈ forest.containers i ↔
      ∃ p, forest.parentOf i = some p ∧ (q = p ∨ q ∈ forest.containers p) := by
  cases hp : forest.parentOf i with
  | none => simp [containers_of_none hp]
  | some p => simp [h.mem_containers_of_some hp]

theorem lt_of_mem_containers (h : forest.IsNested) (hq : q ∈ forest.containers i) : q < i := by
  induction i using h.induction_on with
  | top i hp => exact absurd (containers_of_none hp ▸ hq) List.not_mem_nil
  | inner i p hp ih =>
    have hlt := h.parent_lt i p hp
    rcases (h.mem_containers_of_some hp).1 hq with rfl | hq
    · exact hlt
    · exact Nat.lt_trans (ih hq) hlt

theorem lt_length_of_mem_containers (h : forest.IsNested) (hq : q ∈ forest.containers i) :
    q < forest.length := by
  obtain ⟨p, hp, -⟩ := h.mem_containers_iff.1 hq
  exact Nat.lt_trans (h.lt_of_mem_containers hq) (lt_length_of_parentOf hp)

theorem mem_containers_trans (h : forest.IsNested) (hk : k ∈ forest.containers j)
    (hj : j ∈ forest.containers i) : k ∈ forest.containers i := by
  induction i using h.induction_on with
  | top i hp => exact absurd (containers_of_none hp ▸ hj) List.not_mem_nil
  | inner i p hp ih =>
    refine (h.mem_containers_of_some hp).2 (.inr ?_)
    rcases (h.mem_containers_of_some hp).1 hj with rfl | hj
    · exact hk
    · exact ih hj

/-- Two figures that contain a third one, or are that one, contain one another. -/
theorem comparable (h : forest.IsNested) (hp : p = i ∨ p ∈ forest.containers i)
    (hq : q = i ∨ q ∈ forest.containers i) :
    p = q ∨ p ∈ forest.containers q ∨ q ∈ forest.containers p := by
  induction i using h.induction_on with
  | top i htop =>
    -- Nothing contains a figure of the top level, so both are this figure.
    rw [containers_of_none htop] at hp hq
    rcases hp with rfl | hp
    · rcases hq with rfl | hq
      · exact .inl rfl
      · exact absurd hq List.not_mem_nil
    · exact absurd hp List.not_mem_nil
  | inner i r hr ih =>
    rcases hp with rfl | hp
    · rcases hq with rfl | hq
      · exact .inl rfl
      · exact .inr (.inr hq)
    · rcases hq with rfl | hq
      · exact .inr (.inl hp)
      -- Both contain the container of the third figure, or are that container.
      · exact ih ((h.mem_containers_of_some hr).1 hp) ((h.mem_containers_of_some hr).1 hq)

/-- A figure inside another one is a member of it or inside a member of it. -/
theorem exists_child (h : forest.IsNested) (hi : i ∈ forest.containers j) :
    ∃ c, forest.parentOf c = some i ∧ (j = c ∨ c ∈ forest.containers j) := by
  induction j using h.induction_on with
  | top j hp => exact absurd (containers_of_none hp ▸ hi) List.not_mem_nil
  | inner j p hp ih =>
    rcases (h.mem_containers_of_some hp).1 hi with rfl | hi
    · exact ⟨j, hp, .inl rfl⟩
    · obtain ⟨c, hc, hpc⟩ := ih hi
      exact ⟨c, hc, .inr ((h.mem_containers_of_some hp).2 (hpc.imp Eq.symm id))⟩

theorem mem_containers_of_mem_subtree (h : forest.IsNested) {levels : Nat}
    (hj : j ∈ forest.subtree levels i) : j = i ∨ i ∈ forest.containers j := by
  induction levels generalizing i with
  | zero => exact absurd hj List.not_mem_nil
  | succ levels ih =>
    rcases List.mem_cons.1 hj with rfl | hj
    · exact .inl rfl
    · obtain ⟨c, hc, hj⟩ := List.mem_flatMap.1 hj
      have hparent := (h.mem_childrenOf_iff c i).1 hc
      have hic : i ∈ forest.containers c := (h.mem_containers_of_some hparent).2 (.inl rfl)
      rcases ih hj with rfl | hcj
      · exact .inr hic
      · exact .inr (h.mem_containers_trans hic hcj)

theorem mem_subtree (h : forest.IsNested) {levels : Nat} (hlevels : j < levels + i)
    (hj : j = i ∨ i ∈ forest.containers j) : j ∈ forest.subtree levels i := by
  -- Each level down is a step towards `j`, since members come after their containers.
  induction levels generalizing i with
  | zero =>
    rcases hj with rfl | hj
    · omega
    · have := h.lt_of_mem_containers hj
      omega
  | succ levels ih =>
    rcases hj with rfl | hj
    · exact List.mem_cons_self
    · obtain ⟨c, hc, hcj⟩ := h.exists_child hj
      have hlt := h.parent_lt c i hc
      refine List.mem_cons_of_mem _ (List.mem_flatMap.2 ⟨c, (h.mem_childrenOf_iff c i).2 hc, ?_⟩)
      exact ih (by omega) hcj

theorem nodup_subtree (h : forest.IsNested) (levels i : Nat) : (forest.subtree levels i).Nodup := by
  induction levels generalizing i with
  | zero => exact List.nodup_nil
  | succ levels ih =>
    have hparent : ∀ c ∈ forest.childrenOf i, forest.parentOf c = some i :=
      fun c hc => (h.mem_childrenOf_iff c i).1 hc
    refine List.nodup_cons.2 ⟨?_, List.nodup_flatMap.2 ⟨fun c _ => ih c, ?_⟩⟩
    · -- No figure is inside one of its own members.
      intro hi
      obtain ⟨c, hc, hi⟩ := List.mem_flatMap.1 hi
      have hlt := h.parent_lt c i (hparent c hc)
      rcases h.mem_containers_of_mem_subtree hi with rfl | hi
      · omega
      · have := h.lt_of_mem_containers hi
        omega
    · refine (h.nodup_childrenOf i).imp_of_mem fun {c d} hc hd hne => ?_
      -- Neither of two members contains the other, so they share nothing.
      have houter : ∀ {c d}, c ∈ forest.childrenOf i → d ∈ forest.childrenOf i →
          c ∉ forest.containers d := by
        intro c d hc hd hmem
        have hlt := h.parent_lt c i (hparent c hc)
        rcases (h.mem_containers_of_some (hparent d hd)).1 hmem with rfl | hcp
        · omega
        · have := h.lt_of_mem_containers hcp
          omega
      intro j hjc hjd
      rcases h.comparable ((h.mem_containers_of_mem_subtree hjc).imp Eq.symm id)
        ((h.mem_containers_of_mem_subtree hjd).imp Eq.symm id) with heq | hcd | hdc
      · exact hne heq
      · exact houter hc hd hcd
      · exact houter hd hc hdc

end IsNested

end Containers

section Boxes

/-- The same forest with other boxes. -/
def withBoxes (forest : Forest) (boxes : Nat → Box) : Forest :=
  forest.mapIdx fun i figure => { figure with box := boxes i }

variable (forest : Forest) (boxes : Nat → Box)

@[simp] theorem length_withBoxes : (forest.withBoxes boxes).length = forest.length :=
  List.length_mapIdx

@[simp] theorem getElem?_withBoxes (i : Nat) :
    (forest.withBoxes boxes)[i]? = forest[i]?.map fun figure => { figure with box := boxes i } :=
  List.getElem?_mapIdx

@[simp] theorem parentOf_withBoxes : (forest.withBoxes boxes).parentOf = forest.parentOf := by
  funext i
  rw [parentOf, parentOf, getElem?_withBoxes]
  cases forest[i]? <;> rfl

@[simp] theorem childrenOf_withBoxes : (forest.withBoxes boxes).childrenOf = forest.childrenOf := by
  funext i
  rw [childrenOf, childrenOf, getElem?_withBoxes, Option.map_map]
  rfl

@[simp] theorem containers_withBoxes : (forest.withBoxes boxes).containers = forest.containers :=
  funext (containers_congr (parentOf_withBoxes forest boxes))

theorem map_id_withBoxes : (forest.withBoxes boxes).map Figure.id = forest.map Figure.id := by
  refine List.ext_getElem? fun i => ?_
  rw [List.getElem?_map, List.getElem?_map, getElem?_withBoxes, Option.map_map]
  rfl

theorem withBoxes_boxOf : forest.withBoxes forest.boxOf = forest := by
  refine List.ext_getElem? fun i => ?_
  rw [getElem?_withBoxes, boxOf]
  cases forest[i]? <;> rfl

theorem withBoxes_withBoxes (boxes' : Nat → Box) :
    (forest.withBoxes boxes).withBoxes boxes' = forest.withBoxes boxes' := by
  refine List.ext_getElem? fun i => ?_
  rw [getElem?_withBoxes, getElem?_withBoxes, getElem?_withBoxes, Option.map_map]
  rfl

variable {forest}

theorem IsNested.withBoxes (h : forest.IsNested) : (forest.withBoxes boxes).IsNested where
  parent_lt := parentOf_withBoxes forest boxes ▸ h.parent_lt
  mem_childrenOf_iff :=
    parentOf_withBoxes forest boxes ▸ childrenOf_withBoxes forest boxes ▸ h.mem_childrenOf_iff
  nodup_childrenOf := childrenOf_withBoxes forest boxes ▸ h.nodup_childrenOf

theorem getElem?_foldl_modify {indices : List Nat} (hnodup : indices.Nodup)
    (f : Figure → Figure) (forest : Forest) (j : Nat) :
    (indices.foldl (fun forest i => forest.modify i f) forest)[j]? =
      if j ∈ indices then forest[j]?.map f else forest[j]? := by
  induction indices generalizing forest with
  | nil => rfl
  | cons i indices ih =>
    obtain ⟨hi, hnodup⟩ := List.nodup_cons.1 hnodup
    rw [List.foldl_cons, ih hnodup, List.getElem?_modify]
    -- A figure that has had its turn is not modified again.
    by_cases hij : i = j
    · subst hij
      simp [hi]
    · have hji : ¬ j = i := fun e => hij e.symm
      simp [hij, hji]

/-- A figure is moved with all the figures that it contains, each of them once. -/
theorem getElem?_move (h : forest.IsNested) (i : Nat) (offset : Point) (j : Nat) :
    (forest.move i offset)[j]? =
      if j = i ∨ i ∈ forest.containers j then forest[j]?.map (Figure.move offset)
      else forest[j]? := by
  rw [move, getElem?_foldl_modify (h.nodup_subtree _ _)]
  by_cases hj : j < forest.length
  · -- There are as many levels as figures, so the subtree is complete.
    refine if_congr ⟨h.mem_containers_of_mem_subtree, h.mem_subtree ?_⟩ rfl rfl
    omega
  · rw [List.getElem?_eq_none (Nat.le_of_not_lt hj), Option.map_none, ite_self, ite_self]

theorem withBoxes_move (h : forest.IsNested) (i : Nat) (offset : Point) :
    (forest.withBoxes boxes).move i offset =
      forest.withBoxes fun j =>
        if j = i ∨ i ∈ forest.containers j then (boxes j).move offset else boxes j := by
  refine List.ext_getElem? fun j => ?_
  rw [getElem?_move (h.withBoxes boxes), containers_withBoxes]
  by_cases hj : j = i ∨ i ∈ forest.containers j
  · simp only [if_pos hj, getElem?_withBoxes, Option.map_map]
    rfl
  · simp only [if_neg hj, getElem?_withBoxes]

end Boxes

section Place

variable {figure : Figure}

theorem isNested_nil : IsNested [] where
  parent_lt _ _ h := absurd (lt_length_of_parentOf h) (Nat.not_lt_zero _)
  mem_childrenOf_iff _ _ := by simp [childrenOf, parentOf]
  nodup_childrenOf _ := List.nodup_nil

@[simp] theorem length_push (forest : Forest) (figure : Figure) :
    (forest.push figure).length = forest.length + 1 := by
  unfold push
  split <;> simp

theorem parentOf_push (forest : Forest) (figure : Figure) (i : Nat) :
    (forest.push figure).parentOf i =
      if i = forest.length then figure.parent else forest.parentOf i := by
  unfold push parentOf
  -- Each position is an old one, that of the new figure, or beyond both.
  split
  · rename_i hparent
    rcases Nat.lt_trichotomy i forest.length with hi | rfl | hi
    · rw [List.getElem?_append_left hi, if_neg (by omega)]
    · simp [hparent]
    · rw [if_neg (by omega), List.getElem?_eq_none (by simp; omega),
        List.getElem?_eq_none (by omega)]
  · rename_i p hparent
    rcases Nat.lt_trichotomy i forest.length with hi | rfl | hi
    · rw [if_neg (by omega), List.getElem?_append_left (by simpa using hi), List.getElem?_modify]
      cases forest[i]? with
      | none => rfl
      | some container =>
        by_cases hp : p = i <;> simp [hp]
    · simp [hparent, Figure.move]
    · rw [if_neg (by omega), List.getElem?_eq_none (by simp; omega),
        List.getElem?_eq_none (by omega)]

theorem childrenOf_push (hleaf : figure.children = [])
    (hparent : ∀ p ∈ figure.parent, p < forest.length) (p : Nat) :
    (forest.push figure).childrenOf p =
      forest.childrenOf p ++ if figure.parent = some p then [forest.length] else [] := by
  unfold push childrenOf
  split
  · rename_i hnone
    rw [hnone, if_neg (Option.some_ne_none p).symm, List.append_nil]
    rcases Nat.lt_trichotomy p forest.length with hp | rfl | hp
    · rw [List.getElem?_append_left hp]
    · simp [hleaf]
    · rw [List.getElem?_eq_none (by simp; omega), List.getElem?_eq_none (by omega)]
  · rename_i q hsome
    -- The container is an old figure, and only its list of members grows.
    have hq := hparent q hsome
    rw [hsome]
    rcases Nat.lt_trichotomy p forest.length with hp | rfl | hp
    · rw [List.getElem?_append_left (by simpa using hp), List.getElem?_modify,
        List.getElem?_eq_getElem hp]
      by_cases hqp : q = p <;> simp [hqp]
    · have hne : ¬ q = forest.length := by omega
      simp [hleaf, hne, Figure.move]
    · have hne : ¬ q = p := by omega
      rw [List.getElem?_eq_none (by simp; omega), List.getElem?_eq_none (by omega)]
      simp [hne]

theorem IsNested.push (h : forest.IsNested) (hleaf : figure.children = [])
    (hparent : ∀ p ∈ figure.parent, p < forest.length) : (forest.push figure).IsNested where
  parent_lt i p hp := by
    rw [parentOf_push] at hp
    split at hp
    · rename_i hi
      exact hi ▸ hparent p hp
    · exact h.parent_lt i p hp
  mem_childrenOf_iff i p := by
    rw [childrenOf_push hleaf hparent, parentOf_push, List.mem_append, h.mem_childrenOf_iff]
    by_cases hi : i = forest.length
    · subst hi
      -- The new figure has no entry in the forest as it was.
      have hnew : forest.parentOf forest.length ≠ some p :=
        fun hp => absurd (lt_length_of_parentOf hp) (Nat.lt_irrefl _)
      by_cases hp : figure.parent = some p <;> simp [hnew, hp]
    · by_cases hp : figure.parent = some p <;> simp [hi, hp]
  nodup_childrenOf p := by
    rw [childrenOf_push hleaf hparent]
    split
    · refine List.nodup_append.2 ⟨h.nodup_childrenOf p, List.nodup_singleton _, ?_⟩
      intro i hi j hj
      -- A member listed before has a position of the old forest.
      rw [h.mem_childrenOf_iff] at hi
      have hlt := lt_length_of_parentOf hi
      rw [List.mem_singleton.1 hj]
      exact Nat.ne_of_lt hlt
    · rw [List.append_nil]
      exact h.nodup_childrenOf p

/-- The forest with the figure of one declaration, without what is inside it. -/
def add (catalog : Catalog) (parent : Option Nat) (d : Declaration)
    (result : Forest × List Warning) : Forest × List Warning :=
  (result.1.push (Figure.ofDeclaration catalog parent d).1,
    result.2 ++ (Figure.ofDeclaration catalog parent d).2)

theorem place_cons (catalog : Catalog) (parent : Option Nat) (d : Declaration)
    (declarations : List Declaration) (result : Forest × List Warning) :
    place catalog parent (d :: declarations) result =
      place catalog parent declarations
        (place catalog (some result.1.length) d.children (add catalog parent d result)) := by
  cases d
  cases result
  rw [place]
  rfl

variable {catalog : Catalog} {parent : Option Nat} {d : Declaration}
  {result : Forest × List Warning}

theorem length_add : (add catalog parent d result).1.length = result.1.length + 1 :=
  length_push ..

theorem parent_lt_of_ofDeclaration (catalog : Catalog) (d : Declaration)
    (hparent : ∀ p ∈ parent, p < result.1.length) :
    ∀ p ∈ (Figure.ofDeclaration catalog parent d).1.parent, p < result.1.length := by
  rw [Figure.parent_ofDeclaration]
  exact hparent

theorem IsNested.add (h : result.1.IsNested) (catalog : Catalog) (d : Declaration)
    (hparent : ∀ p ∈ parent, p < result.1.length) :
    (add catalog parent d result).1.IsNested :=
  h.push (Figure.children_ofDeclaration catalog parent d)
    (parent_lt_of_ofDeclaration catalog d hparent)

theorem lt_length_add :
    ∀ p ∈ some result.1.length, p < (Forest.add catalog parent d result).1.length := by
  intro p hp
  rw [length_add, ← Option.some.inj hp]
  exact Nat.lt_succ_self _

/-- Placing declarations in a forest keeps it nested, and takes no figure out of it. -/
theorem place_spec (catalog : Catalog) (declarations : List Declaration) :
    ∀ (parent : Option Nat) (result : Forest × List Warning), result.1.IsNested →
      (∀ p ∈ parent, p < result.1.length) →
      (place catalog parent declarations result).1.IsNested ∧
        result.1.length ≤ (place catalog parent declarations result).1.length := by
  induction declarations using Declaration.forest_induction with
  | nil =>
    intro parent result h _
    rw [place]
    exact ⟨h, Nat.le_refl _⟩
  | cons d declarations ihchildren ih =>
    intro parent result h hparent
    rw [place_cons]
    obtain ⟨hchildren, hle⟩ := ihchildren _ _ (h.add catalog d hparent) lt_length_add
    rw [length_add] at hle
    -- The container is still there when the declarations after `d` are placed.
    obtain ⟨hrest, hle'⟩ := ih parent _ hchildren fun p hp => by
      have := hparent p hp
      omega
    exact ⟨hrest, by omega⟩

/-- Declarations are placed as nested forests. -/
theorem isNested_place (catalog : Catalog) (declarations : List Declaration) :
    (place catalog none declarations ([], [])).1.IsNested :=
  (place_spec catalog declarations none ([], []) isNested_nil nofun).1

end Place

end Forest

end BoxArrow
