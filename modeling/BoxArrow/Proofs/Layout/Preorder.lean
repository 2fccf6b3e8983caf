import BoxArrow.Proofs.Layout.Forest
import Mathlib.Data.List.Range
import Mathlib.Data.Nat.Find

/-!
# Forests in pre-order

The figures of a diagram stand in pre-order: behind each figure comes all that is inside it, and
only then the next figure. So the figures that are moved along with one are a range of the list. A
figure can get a member only as long as nothing stands behind it that is not inside it.

## Main definitions

* `Forest.IsPreorder` — a nested forest in which nothing stands between what is inside a figure
* `Forest.IsOpen` — a figure that can still get members

## Main results

* `Forest.isPreorder_place` — declarations are placed in pre-order
* `Forest.IsPreorder.exists_range` — a figure and all that is inside it are a range
* `Forest.IsPreorder.subtree_eq_range'` — which is walked through from its start to its end
-/

namespace BoxArrow.Forest

/-- The figures stand in pre-order. -/
structure IsPreorder (forest : Forest) : Prop extends forest.IsNested where
  pairwise_childrenOf : ∀ p, (forest.childrenOf p).Pairwise (· < ·)
  /-- What stands between a figure and one that is inside it is inside it too. -/
  mem_containers_of_between : ∀ {i j k}, i ∈ forest.containers k → i < j → j ≤ k →
    i ∈ forest.containers j

/-- Nothing stands behind a figure that is not inside it, so it can still get members. -/
def IsOpen (forest : Forest) (p : Nat) : Prop :=
  p < forest.length ∧ ∀ j, p < j → j < forest.length → p ∈ forest.containers j

variable {forest : Forest} {i j k n p q levels : Nat}

/-! ### Ranges -/

namespace IsPreorder

/-- A figure and all that is inside it are a range of the forest. -/
theorem exists_range (h : forest.IsPreorder) (hi : i < forest.length) :
    ∃ n, 0 < n ∧ i + n ≤ forest.length ∧
      ∀ j, (j = i ∨ i ∈ forest.containers j) ↔ i ≤ j ∧ j < i + n := by
  -- The range goes up to the last figure inside.
  let Inside (j : Nat) : Prop := j = i ∨ i ∈ forest.containers j
  have hlt : ∀ j, Inside j → i ≤ j ∧ j < forest.length := by
    rintro j (rfl | hj)
    · exact ⟨Nat.le_refl _, hi⟩
    · obtain ⟨p, hp, -⟩ := h.mem_containers_iff.1 hj
      exact ⟨(h.lt_of_mem_containers hj).le, lt_length_of_parentOf hp⟩
  let last := Nat.findGreatest Inside forest.length
  have hself : Inside i := .inl rfl
  have hlast : Inside last := Nat.findGreatest_spec hi.le hself
  have hle : i ≤ last := (hlt last hlast).1
  refine ⟨last + 1 - i, by omega, ?_, fun j => ⟨fun hj => ?_, fun ⟨hij, hj⟩ => ?_⟩⟩
  · have := (hlt last hlast).2
    omega
  · have hjlast : j ≤ last := Nat.le_findGreatest (hlt j hj).2.le hj
    have := (hlt j hj).1
    omega
  · rcases Nat.eq_or_lt_of_le hij with rfl | hij
    · exact hself
    · rcases hlast with heq | hlast
      · omega
      · exact .inr (h.mem_containers_of_between hlast hij (by omega))

/-- What is inside an earlier member stands before all that is inside a later one. -/
theorem lt_of_mem_subtree (h : forest.IsPreorder) {c d : Nat} (hc : forest.parentOf c = some p)
    (hd : forest.parentOf d = some p) (hcd : c < d) {levels' : Nat}
    (hi : i ∈ forest.subtree levels c) (hj : j ∈ forest.subtree levels' d) : i < j := by
  have hdj : d ≤ j := by
    rcases h.mem_containers_of_mem_subtree hj with rfl | hj
    · exact Nat.le_refl _
    · exact (h.lt_of_mem_containers hj).le
  rcases h.mem_containers_of_mem_subtree hi with rfl | hi
  · omega
  · by_contra hle
    -- Otherwise the later member would stand inside the earlier one.
    have hmem : c ∈ forest.containers d := h.mem_containers_of_between hi hcd (by omega)
    rcases (h.mem_containers_of_some hd).1 hmem with rfl | hmem
    · exact absurd (h.parent_lt c c hc) (Nat.lt_irrefl c)
    · have hpc := h.parent_lt c p hc
      have hcp := h.lt_of_mem_containers hmem
      omega

/-- A figure and all that is inside it are walked through in the order of the forest. -/
theorem pairwise_subtree (h : forest.IsPreorder) (levels i : Nat) :
    (forest.subtree levels i).Pairwise (· < ·) := by
  induction levels generalizing i with
  | zero => exact .nil
  | succ levels ih =>
    have hparent : ∀ c ∈ forest.childrenOf i, forest.parentOf c = some i :=
      fun c hc => (h.mem_childrenOf_iff c i).1 hc
    refine List.pairwise_cons.2 ⟨fun j hj => ?_, List.pairwise_flatMap.2 ⟨fun c _ => ih c, ?_⟩⟩
    · obtain ⟨c, hc, hj⟩ := List.mem_flatMap.1 hj
      have hlt := h.parent_lt c i (hparent c hc)
      rcases h.mem_containers_of_mem_subtree hj with rfl | hj
      · exact hlt
      · exact hlt.trans (h.lt_of_mem_containers hj)
    · refine (h.pairwise_childrenOf i).imp_of_mem fun {c d} hc hd hcd x hx y hy => ?_
      exact h.lt_of_mem_subtree (hparent c hc) (hparent d hd) hcd hx hy

/-- A figure and all that is inside it are walked through from the start of their range to its
end, each of them once. -/
theorem subtree_eq_range' (h : forest.IsPreorder) (hlevels : forest.length ≤ levels + i)
    (hi : i < forest.length)
    (hrange : ∀ j, (j = i ∨ i ∈ forest.containers j) ↔ i ≤ j ∧ j < i + n) :
    forest.subtree levels i = List.range' i n := by
  have hmem : ∀ j, j ∈ forest.subtree levels i ↔ j ∈ List.range' i n := fun j => by
    rw [List.mem_range'_1, ← hrange]
    refine ⟨h.mem_containers_of_mem_subtree, fun hj => h.mem_subtree ?_ hj⟩
    rcases hj with rfl | hj
    · omega
    · obtain ⟨p, hp, -⟩ := h.mem_containers_iff.1 hj
      have := lt_length_of_parentOf hp
      omega
  have hsorted : (List.range' i n).Pairwise (· < ·) := List.pairwise_lt_range'
  have hperm := (List.perm_ext_iff_of_nodup (h.nodup_subtree levels i) List.nodup_range').2 hmem
  exact hperm.eq_of_pairwise (fun a b _ _ hab hba => absurd hab (Nat.lt_asymm hba))
    (h.pairwise_subtree levels i) hsorted

end IsPreorder

/-! ### Placing -/

theorem isPreorder_nil : IsPreorder [] where
  toIsNested := isNested_nil
  pairwise_childrenOf _ := .nil
  mem_containers_of_between hi := by
    obtain ⟨p, hp, -⟩ := isNested_nil.mem_containers_iff.1 hi
    exact absurd (lt_length_of_parentOf hp) (Nat.not_lt_zero _)

section Push

variable {figure : Figure}

theorem containers_push_of_lt (figure : Figure) (hi : i < forest.length) :
    (forest.push figure).containers i = forest.containers i := by
  refine containers_congr_of_le fun j hj => ?_
  rw [parentOf_push, if_neg (by omega)]

theorem containers_push_length (h : (forest.push figure).IsNested) (hp : figure.parent = some p)
    (hlt : p < forest.length) :
    (forest.push figure).containers forest.length = forest.containers p ++ [p] := by
  have hparent : (forest.push figure).parentOf forest.length = some p := by
    rw [parentOf_push, if_pos rfl, hp]
  rw [containers_of_some h hparent, containers_push_of_lt figure hlt]

/-- What is open and not behind an open figure contains it. -/
theorem IsOpen.mem_containers (h : forest.IsOpen q) (hqp : q ≤ p) (hp : p < forest.length) :
    q ∈ forest.containers p ++ [p] := by
  rcases Nat.eq_or_lt_of_le hqp with rfl | hqp
  · exact List.mem_append_right _ (List.mem_singleton.2 rfl)
  · exact List.mem_append_left _ (h.2 p hqp hp)

theorem IsPreorder.push (h : forest.IsPreorder) (hleaf : figure.children = [])
    (hopen : ∀ p ∈ figure.parent, forest.IsOpen p) : (forest.push figure).IsPreorder := by
  have hlt : ∀ p ∈ figure.parent, p < forest.length := fun p hp => (hopen p hp).1
  have hnested : (forest.push figure).IsNested := h.toIsNested.push hleaf hlt
  refine ⟨hnested, fun p => ?_, fun {i j k} hik hij hjk => ?_⟩
  · rw [childrenOf_push hleaf hlt]
    split
    · refine List.pairwise_append.2 ⟨h.pairwise_childrenOf p, List.pairwise_singleton _ _, ?_⟩
      intro i hi j hj
      -- A member listed before has a position of the old forest.
      rw [List.mem_singleton.1 hj]
      exact lt_length_of_parentOf ((h.mem_childrenOf_iff i p).1 hi)
    · rw [List.append_nil]
      exact h.pairwise_childrenOf p
  · rcases Nat.eq_or_lt_of_le hjk with rfl | hjk
    · exact hik
    obtain ⟨r, hr, -⟩ := hnested.mem_containers_iff.1 hik
    have hk := lt_length_of_parentOf hr
    rw [length_push] at hk
    rcases Nat.lt_or_eq_of_le (Nat.le_of_lt_succ hk) with hk | rfl
    · rw [containers_push_of_lt figure hk] at hik
      rw [containers_push_of_lt figure (by omega)]
      exact h.mem_containers_of_between hik hij hjk.le
    · -- The containers of the new figure are open, so what stands behind them is inside them.
      rw [parentOf_push, if_pos rfl] at hr
      obtain ⟨hrlt, hbehind⟩ := hopen r hr
      rw [containers_push_length hnested hr hrlt, List.mem_append, List.mem_singleton] at hik
      rw [containers_push_of_lt figure hjk]
      rcases hik with hir | rfl
      · rcases Nat.lt_or_ge r j with hrj | hjr
        · exact h.mem_containers_trans hir (hbehind j hrj hjk)
        · exact h.mem_containers_of_between hir hij hjr
      · exact hbehind j hij hjk

/-- A figure stays open as long as what is put behind it is put inside it. -/
theorem IsOpen.push (h : forest.IsOpen q)
    (hq : q ∈ (forest.push figure).containers forest.length) : (forest.push figure).IsOpen q := by
  refine ⟨?_, fun j hqj hj => ?_⟩
  · rw [length_push]
    exact Nat.lt_succ_of_lt h.1
  · rw [length_push] at hj
    rcases Nat.lt_or_eq_of_le (Nat.le_of_lt_succ hj) with hj | rfl
    · rw [containers_push_of_lt figure hj]
      exact h.2 j hqj hj
    · exact hq

/-- A new figure is open, as nothing stands behind it. -/
theorem isOpen_push_length (forest : Forest) (figure : Figure) :
    (forest.push figure).IsOpen forest.length := by
  refine ⟨?_, fun j hlt hj => ?_⟩
  · rw [length_push]
    exact Nat.lt_succ_self _
  · rw [length_push] at hj
    omega

end Push

variable {parent : Option Nat} {result : Forest × List Warning}

theorem IsPreorder.add (h : result.1.IsPreorder) (catalog : Catalog) (d : Declaration)
    (hopen : ∀ p ∈ parent, result.1.IsOpen p) :
    (Forest.add catalog parent d result).1.IsPreorder := by
  refine h.push (Figure.children_ofDeclaration catalog parent d) ?_
  rw [Figure.parent_ofDeclaration]
  exact hopen

/-- The containers of a figure stay open when it is added. -/
theorem IsOpen.add (h : result.1.IsOpen q) (hnested : result.1.IsNested) (catalog : Catalog)
    (d : Declaration) (hp : p < result.1.length) (hqp : q ≤ p) :
    (Forest.add catalog (some p) d result).1.IsOpen q := by
  have hlt : ∀ r ∈ some p, r < result.1.length := by
    rintro r ⟨⟩
    exact hp
  refine h.push ?_
  rw [containers_push_length (hnested.add catalog d hlt) (Figure.parent_ofDeclaration ..) hp]
  exact h.mem_containers hqp hp

/-- Placing declarations inside an open figure keeps the forest in pre-order, and the figure and
what is open before it stay open. -/
theorem isPreorder_place_inside (catalog : Catalog) (declarations : List Declaration) :
    ∀ (parent : Option Nat) (result : Forest × List Warning), result.1.IsPreorder →
      (∀ p ∈ parent, result.1.IsOpen p) →
      (place catalog parent declarations result).1.IsPreorder ∧
        ∀ p ∈ parent, ∀ q ≤ p, result.1.IsOpen q →
          (place catalog parent declarations result).1.IsOpen q := by
  induction declarations using Declaration.forest_induction with
  | nil =>
    intro parent result h _
    rw [place]
    exact ⟨h, fun _ _ _ _ hq => hq⟩
  | cons d declarations ihchildren ih =>
    intro parent result h hopen
    rw [place_cons]
    have hadd := h.add catalog d hopen
    have hnew : ∀ p ∈ some result.1.length, (Forest.add catalog parent d result).1.IsOpen p := by
      rintro p ⟨⟩
      exact isOpen_push_length ..
    obtain ⟨hinside, hkeep⟩ := ihchildren (some result.1.length) _ hadd hnew
    -- What is open up to the container is open behind the new figure and all that is inside it.
    have hstay : ∀ p ∈ parent, ∀ q ≤ p, result.1.IsOpen q →
        (place catalog (some result.1.length) d.children
          (Forest.add catalog parent d result)).1.IsOpen q := by
      rintro p rfl q hqp hq
      have hp := (hopen p rfl).1
      exact hkeep result.1.length rfl q (by omega) (hq.add h.toIsNested catalog d hp hqp)
    obtain ⟨hrest, hkeep'⟩ := ih parent _ hinside fun p hp =>
      hstay p hp p (Nat.le_refl p) (hopen p hp)
    exact ⟨hrest, fun p hp q hqp hq => hkeep' p hp q hqp (hstay p hp q hqp hq)⟩

/-- Declarations are placed in pre-order. -/
theorem isPreorder_place (catalog : Catalog) (declarations : List Declaration) :
    (place catalog none declarations ([], [])).1.IsPreorder :=
  (isPreorder_place_inside catalog declarations none ([], []) isPreorder_nil nofun).1

end BoxArrow.Forest
