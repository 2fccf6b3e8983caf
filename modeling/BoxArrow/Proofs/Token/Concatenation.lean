import BoxArrow.Proofs.Token.Lines

/-!
# The tokens of two sources

Behind a source that ends outside quoted text, and a gap of blanks, the tokens of another source are
the same as at the start. They stand as many bytes further to the right as there are before them.

## Main definitions

* `Lexeme.relocate` — the lexeme with its span moved

## Main results

* `Token.scan_append_gap` — the tokens of two sources with blanks between them, with their spans
-/

namespace BoxArrow

/-- The lexeme with its span moved. -/
def Lexeme.relocate (f : Span → Span) (l : Lexeme) : Lexeme := { l with span := f l.span }

namespace Token

theorem locate_append (offset : Nat) (front back : List Piece) :
    locate offset (front ++ back) =
      locate offset front ++
        locate (offset + Text.byteLength (front.flatMap Piece.chars)) back := by
  fun_induction locate offset front with
  | case1 => rfl
  | case2 offset c front ih =>
    rw [List.cons_append, locate, ih, List.flatMap_cons, Text.byteLength_append, ← Nat.add_assoc]
    rfl
  | case3 offset t front ih =>
    rw [List.cons_append, locate, ih, List.flatMap_cons, Text.byteLength_append, ← Nat.add_assoc]
    rfl

theorem locate_add (offset start : Nat) (pieces : List Piece) :
    locate (offset + start) pieces =
      (locate start pieces).map (Lexeme.relocate (Span.shift offset)) := by
  fun_induction locate start pieces with
  | case1 => rfl
  | case2 start c pieces ih => rw [locate, Nat.add_assoc, ih]
  | case3 start t pieces ih =>
    rw [locate, Nat.add_assoc, ih]
    rfl

theorem locate_blanks_append (offset : Nat) (blanks : List Char) (back : List Piece) :
    locate offset (blanks.map Piece.blank ++ back) =
      locate (offset + Text.byteLength blanks) back := by
  induction blanks generalizing offset with
  | nil => rfl
  | cons c blanks ih =>
    rw [List.map_cons, List.cons_append, locate, ih, Text.byteLength_cons, Nat.add_assoc]

/-- The tokens of two sources with a gap of blanks between them, if the first ends outside quoted
text. -/
theorem scan_append_gap {front gap : String} (back : String)
    (h : Text.modeAfter none front.toList = none) (hgap : Text.IsBlanks gap.toList)
    (hne : gap ≠ "") :
    scan (front ++ gap ++ back) =
      scan front ++ (scan back).map (Lexeme.relocate (Span.shift (front ++ gap).utf8ByteSize)) := by
  have hnonempty : gap.toList ≠ [] := fun hnil => hne (String.toList_inj.1 hnil)
  have hsize : (front ++ gap).utf8ByteSize =
      Text.byteLength front.toList + Text.byteLength gap.toList := by
    rw [String.utf8ByteSize_append, Text.byteLength_toList, Text.byteLength_toList]
  rw [scan, String.toList_append, String.toList_append,
    pieces_append_gap hgap hnonempty back.toList h, List.append_assoc, locate_append,
    pieces_flatMap_chars, locate_blanks_append, Nat.zero_add, ← hsize]
  exact congrArg _ (locate_add (front ++ gap).utf8ByteSize 0 _)

/-- The tokens of two sources on lines of their own, if the first ends outside quoted text. -/
theorem scan_append_newline {front : String} (back : String)
    (h : endsQuoted false ((scan front).map Lexeme.token) = false) :
    scan (front ++ "\n" ++ back) =
      scan front ++
        (scan back).map (Lexeme.relocate (Span.shift (front.utf8ByteSize + 1))) := by
  have hsize : (front ++ "\n").utf8ByteSize = front.utf8ByteSize + 1 :=
    String.utf8ByteSize_append
  rw [scan_append_gap back (modeAfter_eq_none h) isBlanks_newline (by decide), hsize]

end Token

end BoxArrow
