/-!
# Spans

A span is a half-open range of bytes of a source.

## Main definitions

* `Span` — the range `start ≤ i < stop`
* `Span.union` — the smallest span that covers two spans
* `Span.shift` — the span moved to the right
-/

namespace BoxArrow

/-- The bytes from `start` up to, but not including, `stop`. -/
structure Span where
  /-- Offset of the first byte. -/
  start : Nat
  /-- Offset after the last byte. -/
  stop : Nat
  deriving DecidableEq, Repr, Inhabited

namespace Span

/-- The empty span at an offset. -/
def point (offset : Nat) : Span := ⟨offset, offset⟩

/-- The number of bytes covered. -/
def length (span : Span) : Nat := span.stop - span.start

/-- Whether no byte is covered. -/
def isEmpty (span : Span) : Bool := span.start == span.stop

/-- The smallest span that covers both. -/
def union (a b : Span) : Span := ⟨min a.start b.start, max a.stop b.stop⟩

/-- The span moved to the right by `offset` bytes. -/
def shift (offset : Nat) (span : Span) : Span := ⟨offset + span.start, offset + span.stop⟩

/-- The offsets with two dots between them, as in `3..10`. -/
def display (span : Span) : String := toString span.start ++ ".." ++ toString span.stop

theorem union_comm (a b : Span) : a.union b = b.union a := by
  simp [union, Nat.min_comm, Nat.max_comm]

theorem union_assoc (a b c : Span) : (a.union b).union c = a.union (b.union c) := by
  simp [union, Nat.min_assoc, Nat.max_assoc]

theorem shift_union (offset : Nat) (a b : Span) :
    (a.union b).shift offset = (a.shift offset).union (b.shift offset) := by
  simp [union, shift, Nat.add_min_add_left, Nat.add_max_add_left]

end Span

end BoxArrow
