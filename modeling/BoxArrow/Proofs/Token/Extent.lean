import BoxArrow.Token.Lexer
import Mathlib.Data.List.Basic

/-!
# The extent of lexemes

The lexemes of a source stand one behind the other. What is read from neighbouring lexemes covers
the source from the start of the first one to the end of the last one, even if it is put together
from the spans of only some of them.

## Main definitions

* `Lexeme.AreOrdered` — lexemes that stand one behind the other
* `Lexeme.extent` — the bytes from the first to the last of some lexemes

## Main results

* `Lexeme.areOrdered_scan` — the lexemes of a source are ordered
* `Lexeme.union_extent` — the extent of lexemes is that of the first and the last of them
-/

namespace BoxArrow.Lexeme

/-- Lexemes that stand one behind the other in a source. -/
structure AreOrdered (ls : List Lexeme) : Prop where
  start_le_stop : ∀ l ∈ ls, l.span.start ≤ l.span.stop
  pairwise : ls.Pairwise fun l l' => l.span.stop ≤ l'.span.start

/-- The bytes from the first to the last of some lexemes. -/
def extent (ls : List Lexeme) : Span :=
  ⟨(ls.head?.map (·.span.start)).getD 0, (ls.getLast?.map (·.span.stop)).getD 0⟩

variable {ls ls' : List Lexeme}

theorem AreOrdered.sublist (h : AreOrdered ls) (hsub : ls'.Sublist ls) : AreOrdered ls' where
  start_le_stop l hl := h.start_le_stop l (hsub.subset hl)
  pairwise := h.pairwise.sublist hsub

theorem extent_of_ne_nil (h : ls ≠ []) :
    extent ls = ⟨(ls.head h).span.start, (ls.getLast h).span.stop⟩ := by
  rw [extent, List.head?_eq_some_head h, List.getLast?_eq_some_getLast h]
  rfl

/-- The extent of lexemes is the union of that of the first and that of the last ones. -/
theorem union_extent (front middle back : List Lexeme)
    (h : AreOrdered (front ++ middle ++ back)) (hfront : front ≠ []) (hback : back ≠ []) :
    (extent front).union (extent back) = extent (front ++ middle ++ back) := by
  -- Each of the first lexemes stops before any of the last ones starts.
  have hcross : ∀ l ∈ front, ∀ l' ∈ back, l.span.stop ≤ l'.span.start := fun l hl l' hl' =>
    (List.pairwise_append.1 h.pairwise).2.2 l (List.mem_append_left _ hl) l' hl'
  have hstart : (front.head hfront).span.start ≤ (back.head hback).span.start :=
    Nat.le_trans (h.start_le_stop _ (by simp)) (hcross _ (List.head_mem _) _ (List.head_mem _))
  have hstop : (front.getLast hfront).span.stop ≤ (back.getLast hback).span.stop :=
    Nat.le_trans (hcross _ (List.getLast_mem _) _ (List.getLast_mem _))
      (h.start_le_stop _ (by simp))
  rw [extent_of_ne_nil hfront, extent_of_ne_nil hback,
    extent_of_ne_nil (List.append_ne_nil_of_right_ne_nil _ hback), Span.union,
    Nat.min_eq_left hstart, Nat.max_eq_right hstop]
  simp [hfront, hback]

theorem areOrdered_locate (offset : Nat) (pieces : List Piece) :
    AreOrdered (Token.locate offset pieces) ∧
      ∀ l ∈ Token.locate offset pieces, offset ≤ l.span.start := by
  fun_induction Token.locate offset pieces with
  | case1 => exact ⟨⟨by simp, .nil⟩, by simp⟩
  | case2 offset c pieces ih =>
    exact ⟨ih.1, fun l hl => Nat.le_trans (Nat.le_add_right _ _) (ih.2 l hl)⟩
  | case3 offset t pieces ih =>
    obtain ⟨⟨hle, hpairwise⟩, hstart⟩ := ih
    refine ⟨⟨List.forall_mem_cons.2 ⟨Nat.le_add_right _ _, hle⟩, .cons hstart hpairwise⟩, ?_⟩
    refine List.forall_mem_cons.2 ⟨Nat.le_refl _, fun l hl => ?_⟩
    exact Nat.le_trans (Nat.le_add_right _ _) (hstart l hl)

/-- The lexemes of a source are ordered. -/
theorem areOrdered_scan (source : String) : AreOrdered (Token.scan source) :=
  (areOrdered_locate 0 _).1

theorem stop_le_of_mem_locate {offset : Nat} {pieces : List Piece} :
    ∀ l ∈ Token.locate offset pieces,
      l.span.stop ≤ offset + Text.byteLength (pieces.flatMap Piece.chars) := by
  fun_induction Token.locate offset pieces with
  | case1 => simp
  | case2 offset c pieces ih =>
    intro l hl
    rw [List.flatMap_cons, Text.byteLength_append, ← Nat.add_assoc]
    exact ih l hl
  | case3 offset t pieces ih =>
    intro l hl
    rw [List.flatMap_cons, Text.byteLength_append, ← Nat.add_assoc]
    rcases List.mem_cons.1 hl with rfl | hl
    · exact Nat.le_add_right _ _
    · exact ih l hl

/-- The lexemes of a source stand in it. -/
theorem stop_le_of_mem_scan {source : String} {l : Lexeme} (h : l ∈ Token.scan source) :
    l.span.stop ≤ source.utf8ByteSize := by
  have hstop := stop_le_of_mem_locate l h
  rwa [Token.pieces_flatMap_chars, Text.byteLength_toList, Nat.zero_add] at hstop

/-- The first lexemes stop before the source does. -/
theorem AreOrdered.stop_le_of_getLast? (h : AreOrdered ls) {l last : Lexeme} (hl : l ∈ ls)
    (hlast : ls.getLast? = some last) : l.span.stop ≤ last.span.stop := by
  obtain ⟨front, rfl⟩ := List.getLast?_eq_some_iff.1 hlast
  rcases List.mem_append.1 hl with hl | hl
  · have hstart := (List.pairwise_append.1 h.pairwise).2.2 l hl last List.mem_cons_self
    exact Nat.le_trans hstart (h.start_le_stop last (by simp))
  · cases List.mem_singleton.1 hl
    exact Nat.le_refl _

end BoxArrow.Lexeme
