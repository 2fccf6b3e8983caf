import BoxArrow.Proofs.Document.Names
import BoxArrow.Proofs.Layout.Preorder

/-!
# Moving figures

A figure is moved by moving it and then, one after the other, its members with all that is inside
them. Nothing keeps track of what has been moved already: that no figure is moved twice, that the
recursion ends and that it finds every figure it looks for follows from how the forest is built.
Ties are fulfilled by such moves alone, which change boxes and nothing else, so the forest stays
fit for further moves.

## Main definitions

* `Forest.moveFrom?` — a figure and all that is inside it moved by recursion
* `Forest.MovesTo` — one move of a figure
* `Forest.IsStageOf` — a forest while the ties on an axis are being fulfilled

## Main results

* `Forest.moveFrom?_eq_some` — the recursion ends and moves each figure of the subtree once
* `Forest.IsStageOf.reflTransGen` — ties are fulfilled by moves alone
* `Forest.isPreorder_stages` — the forest stays in pre-order, and so every move is that recursion
-/

namespace BoxArrow.Forest

open Relation

/-- The forest with a figure moved by an offset, and then each of its members with all that is
inside it, as they are listed while the moves go on. There is no such forest if a figure is not
there, or if members are nested in more than the given number of levels. -/
def moveFrom? (offset : Point) : Nat → Forest → Nat → Option Forest
  | 0, _, _ => none
  | levels + 1, forest, i =>
    match forest[i]? with
    | none => none
    | some figure =>
      figure.children.foldlM (moveFrom? offset levels) (forest.modify i (Figure.move offset))

/-- The forest with the figures at some positions moved by an offset, one after the other. -/
def moveListed (offset : Point) (forest : Forest) (indices : List Nat) : Forest :=
  indices.foldl (fun forest j => forest.modify j (Figure.move offset)) forest

variable {forest forest' : Forest} {offset : Point} {i n levels : Nat}

/-! ### The recursion -/

theorem modify_move_eq_withBoxes (forest : Forest) (i : Nat) (offset : Point) :
    forest.modify i (Figure.move offset) =
      forest.withBoxes (Function.update forest.boxOf i ((forest.boxOf i).move offset)) := by
  refine List.ext_getElem? fun j => ?_
  rw [List.getElem?_modify, getElem?_withBoxes]
  by_cases hij : i = j
  · subst hij
    rw [Function.update_self, boxOf]
    cases forest[i]? <;> simp [Figure.move]
  · rw [Function.update_of_ne (Ne.symm hij), boxOf]
    cases forest[j]? <;> simp [hij]

theorem exists_moveListed_eq_withBoxes (offset : Point) (forest : Forest) (indices : List Nat) :
    ∃ boxes, moveListed offset forest indices = forest.withBoxes boxes := by
  induction indices generalizing forest with
  | nil => exact ⟨forest.boxOf, (withBoxes_boxOf forest).symm⟩
  | cons i indices ih =>
    obtain ⟨boxes, hboxes⟩ := ih (forest.modify i (Figure.move offset))
    refine ⟨boxes, ?_⟩
    rw [modify_move_eq_withBoxes, withBoxes_withBoxes, ← modify_move_eq_withBoxes] at hboxes
    exact hboxes

theorem moveListed_append (offset : Point) (forest : Forest) (front back : List Nat) :
    moveListed offset forest (front ++ back) =
      moveListed offset (moveListed offset forest front) back := List.foldl_append

@[simp] theorem subtree_withBoxes (forest : Forest) (boxes : Nat → Box) (levels i : Nat) :
    (forest.withBoxes boxes).subtree levels i = forest.subtree levels i := by
  induction levels generalizing i with
  | zero => rfl
  | succ levels ih =>
    have hchildren := congrFun (childrenOf_withBoxes forest boxes) i
    unfold childrenOf at hchildren
    rw [subtree, subtree, hchildren, funext ih]

/-- Members that are moved one after the other are moved as their subtrees are listed, since a move
changes none of the lists. -/
theorem foldlM_moveFrom?_eq_some {members : List Nat}
    (h : ∀ c ∈ members, ∀ boxes, moveFrom? offset levels (forest.withBoxes boxes) c =
      some (moveListed offset (forest.withBoxes boxes) (forest.subtree levels c)))
    (boxes : Nat → Box) :
    members.foldlM (moveFrom? offset levels) (forest.withBoxes boxes) =
      some (moveListed offset (forest.withBoxes boxes)
        (members.flatMap (forest.subtree levels))) := by
  induction members generalizing boxes with
  | nil => rfl
  | cons c members ih =>
    obtain ⟨hc, hmembers⟩ := List.forall_mem_cons.1 h
    -- The first member has changed boxes alone, so the others are moved as they would be without.
    obtain ⟨boxes', hboxes'⟩ :=
      exists_moveListed_eq_withBoxes offset (forest.withBoxes boxes) (forest.subtree levels c)
    rw [withBoxes_withBoxes] at hboxes'
    rw [List.foldlM_cons, hc, Option.bind_eq_bind, Option.bind_some, List.flatMap_cons,
      moveListed_append, hboxes']
    exact ih hmembers boxes'

/-- The recursion ends, finds every figure, and moves the figures of the subtree as they are
listed. -/
theorem moveFrom?_eq_some (h : forest.IsNested) (hi : i < forest.length)
    (hlevels : forest.length ≤ levels + i) :
    moveFrom? offset levels forest i =
      some (moveListed offset forest (forest.subtree levels i)) := by
  induction levels generalizing forest i with
  | zero => omega
  | succ levels ih =>
    have hfigure := List.getElem?_eq_getElem hi
    have hchildren : forest.childrenOf i = forest[i].children := by
      rw [childrenOf, hfigure]
      rfl
    have hmembers : ∀ c ∈ forest.childrenOf i, ∀ boxes,
        moveFrom? offset levels (forest.withBoxes boxes) c =
          some (moveListed offset (forest.withBoxes boxes) (forest.subtree levels c)) := by
      intro c hc boxes
      have hparent := (h.mem_childrenOf_iff c i).1 hc
      -- A member stands behind its container, so one level less will do for it.
      have hlt := h.parent_lt c i hparent
      rw [← subtree_withBoxes forest boxes]
      refine ih (h.withBoxes boxes) ?_ ?_ <;> rw [length_withBoxes]
      · exact lt_length_of_parentOf hparent
      · omega
    have hfold := foldlM_moveFrom?_eq_some hmembers
      (Function.update forest.boxOf i ((forest.boxOf i).move offset))
    rw [← modify_move_eq_withBoxes, hchildren] at hfold
    rw [moveFrom?, hfigure]
    dsimp only
    rw [hfold, subtree, hfigure]
    rfl

namespace IsPreorder

variable (h : forest.IsPreorder) (hi : i < forest.length)
  (hrange : ∀ j, (j = i ∨ i ∈ forest.containers j) ↔ i ≤ j ∧ j < i + n)
include h hrange

/-- Only the figures of the range that belongs to a figure are moved, and only their boxes. -/
theorem move_eq_withBoxes (offset : Point) :
    forest.move i offset = forest.withBoxes fun j =>
      if i ≤ j ∧ j < i + n then (forest.boxOf j).move offset else forest.boxOf j := by
  have hmove := withBoxes_move forest.boxOf h.toIsNested i offset
  rw [withBoxes_boxOf] at hmove
  rw [hmove]
  simp only [hrange]

include hi

/-- They are moved one after the other, each of them once. -/
theorem move_eq_moveListed (offset : Point) :
    forest.move i offset = moveListed offset forest (List.range' i n) := by
  rw [move, h.subtree_eq_range' (Nat.le_add_right _ i) hi hrange]
  rfl

/-- In pre-order a move is the recursion, for any number of levels that is large enough. -/
theorem moveFrom?_eq_some_move (hlevels : forest.length ≤ levels + i) (offset : Point) :
    moveFrom? offset levels forest i = some (forest.move i offset) := by
  rw [moveFrom?_eq_some h.toIsNested hi hlevels, h.subtree_eq_range' hlevels hi hrange,
    h.move_eq_moveListed hi hrange]

end IsPreorder

/-! ### Moves while ties are fulfilled -/

/-- One figure is moved, with all that is inside it. -/
def MovesTo (forest forest' : Forest) : Prop :=
  ∃ i < forest.length, ∃ offset, forest' = forest.move i offset

/-- A forest in which some of the figures that have a turn on an axis have taken it, in order. -/
def IsStageOf (index : OrderedMap Nat) (axis : Axis) (forest forest' : Forest) : Prop :=
  ∃ earlier later, forest.turns axis index = earlier ++ later ∧
    forest' = earlier.foldl (align axis (forest.ties axis index)) forest

variable {index : OrderedMap Nat} {axis : Axis}

theorem exists_move_eq_withBoxes (forest : Forest) (i : Nat) (offset : Point) :
    ∃ boxes, forest.move i offset = forest.withBoxes boxes :=
  exists_moveListed_eq_withBoxes offset forest _

/-- A turn is one move, or none. -/
theorem reflGen_align {ties : List (Option (Except Warning Tie))}
    (h : ties.length = forest.length) (axis : Axis) (i : Nat) :
    ReflGen MovesTo forest (align axis ties forest i) := by
  unfold align
  cases htie : tie? ties i with
  | none => exact .refl
  | some tie =>
    refine .single ⟨i, ?_, _, rfl⟩
    rw [← h]
    by_contra hle
    rw [tie?, List.getElem?_eq_none (Nat.le_of_not_lt hle)] at htie
    cases htie

/-- Moves change nothing but boxes. -/
theorem exists_eq_withBoxes_of_moves (h : ReflTransGen MovesTo forest forest') :
    ∃ boxes, forest' = forest.withBoxes boxes := by
  induction h with
  | refl => exact ⟨forest.boxOf, (withBoxes_boxOf forest).symm⟩
  | tail _ hmove ih =>
    obtain ⟨boxes, rfl⟩ := ih
    obtain ⟨i, -, offset, rfl⟩ := hmove
    obtain ⟨boxes', hboxes'⟩ := exists_move_eq_withBoxes (forest.withBoxes boxes) i offset
    exact ⟨boxes', hboxes'.trans (withBoxes_withBoxes ..)⟩

theorem IsPreorder.withBoxes (h : forest.IsPreorder) (boxes : Nat → Box) :
    (forest.withBoxes boxes).IsPreorder where
  toIsNested := h.toIsNested.withBoxes boxes
  pairwise_childrenOf := childrenOf_withBoxes forest boxes ▸ h.pairwise_childrenOf
  mem_containers_of_between := by
    rw [containers_withBoxes]
    exact h.mem_containers_of_between

/-- Ties are fulfilled by moves alone. -/
theorem IsStageOf.reflTransGen (h : IsStageOf index axis forest forest') :
    ReflTransGen MovesTo forest forest' := by
  obtain ⟨earlier, -, -, rfl⟩ := h
  induction earlier using List.reverseRecOn with
  | nil => exact .refl
  | append_singleton earlier i ih =>
    obtain ⟨boxes, hboxes⟩ := exists_eq_withBoxes_of_moves ih
    rw [List.foldl_append]
    refine ih.trans (reflGen_align ?_ axis i).to_reflTransGen
    rw [hboxes, length_withBoxes]
    exact List.length_map _

/-- A whole pass is a stage of itself. -/
theorem isStageOf_settleAxis (index : OrderedMap Nat) (axis : Axis) (forest : Forest) :
    IsStageOf index axis forest (forest.settleAxis index axis).1 :=
  ⟨_, [], (List.append_nil _).symm, settleAxis_fst ..⟩

theorem reflTransGen_afterPasses (index : OrderedMap Nat) (forest : Forest) (passes : List Axis) :
    ReflTransGen MovesTo forest (afterPasses index forest passes) := by
  induction passes using List.reverseRecOn with
  | nil => exact .refl
  | append_singleton passes axis ih =>
    rw [afterPasses_append_singleton]
    exact ih.trans (isStageOf_settleAxis index axis _).reflTransGen

/-- The figures of any declarations, one for each, stand in pre-order, and fulfilling their ties
moves one figure after the other and never changes that. At every stage, and after any other moves,
a figure and all that is inside it are a range of the forest, and moving them by recursion ends,
finds every figure, and moves those of the range, each once, and nothing else. -/
theorem isPreorder_stages (catalog : Catalog) (declarations : List Declaration) :
    let placed := (place catalog none declarations ([], [])).1
    let index := placed.lastIndex
    (∀ passes axis forest, IsStageOf index axis (afterPasses index placed passes) forest →
      ReflTransGen MovesTo placed forest) ∧
    ReflTransGen MovesTo placed (placed.settle index).1 ∧
    ∀ forest, ReflTransGen MovesTo placed forest →
      forest.IsPreorder ∧ forest.map Figure.id = Declaration.names declarations ∧
      (∃ boxes, forest = placed.withBoxes boxes) ∧
      ∀ i < forest.length, ∃ n, 0 < n ∧ i + n ≤ forest.length ∧
        (∀ j, (j = i ∨ i ∈ forest.containers j) ↔ i ≤ j ∧ j < i + n) ∧
        ∀ offset levels, forest.length ≤ levels →
          moveFrom? offset levels forest i = some (forest.move i offset) ∧
          forest.move i offset = moveListed offset forest (List.range' i n) ∧
          forest.move i offset = forest.withBoxes fun j =>
            if i ≤ j ∧ j < i + n then (forest.boxOf j).move offset else forest.boxOf j := by
  intro placed index
  refine ⟨fun passes axis forest hstage => ?_, ?_, fun forest hmoves => ?_⟩
  · exact (reflTransGen_afterPasses index placed passes).trans hstage.reflTransGen
  · rw [settle_fst]
    exact reflTransGen_afterPasses ..
  · obtain ⟨boxes, hboxes⟩ := exists_eq_withBoxes_of_moves hmoves
    -- Moves change boxes alone, so the order and the identifiers are those of the placed forest.
    have hpreorder : forest.IsPreorder :=
      hboxes ▸ (isPreorder_place catalog declarations).withBoxes boxes
    have hids : forest.map Figure.id = Declaration.names declarations := by
      rw [hboxes, map_id_withBoxes, map_id_place]
    refine ⟨hpreorder, hids, ⟨boxes, hboxes⟩, fun i hi => ?_⟩
    obtain ⟨n, hpos, hle, hrange⟩ := hpreorder.exists_range hi
    refine ⟨n, hpos, hle, hrange, fun offset levels hlevels => ⟨?_, ?_, ?_⟩⟩
    · exact hpreorder.moveFrom?_eq_some_move hi hrange (by omega) offset
    · exact hpreorder.move_eq_moveListed hi hrange offset
    · exact hpreorder.move_eq_withBoxes hrange offset

end BoxArrow.Forest
