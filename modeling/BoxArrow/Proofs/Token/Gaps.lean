import BoxArrow.Proofs.Token.Concatenation
import BoxArrow.Proofs.Token.Lexical

/-!
# Gaps between tokens

Every rule for tokens looks at the characters that follow, but none of them looks past a blank
outside quoted text. So a source can be cut at every such gap, and how much blank there is in a gap,
and of which kind, does not show in the tokens. Whether a text ends outside quoted text can be told
from its tokens, since each segment of quoted text shows in them by its marks.

## Main definitions

* `Token.EndsUnclosed` — tokens that end with a segment of quoted text that no mark closes
* `Token.IsGap` — a text of blanks
* `Token.spaced` — passages with gaps behind them

## Main results

* `Token.markAfter_pieces` — the mark that is open behind a text is open behind its tokens
* `Token.scan_gaps` — a source may be cut at its gaps
-/

namespace BoxArrow.Token

open Text (IsBlanks isQuote modeAfter not_isQuote_of_isBlank)

/-- The quote mark that is open behind a token, if `mode` is open before it. Outside quoted text a
mark opens a segment, and inside a mark closes it. -/
def markBehind : Option Char → Token → Option Char
  | none, quote mark => some mark
  | some _, quote _ => none
  | mode, _ => mode

/-- The quote mark that is open behind some tokens, if `mode` is open before them. -/
def markAfter (mode : Option Char) (ts : List Token) : Option Char := ts.foldl markBehind mode

/-- Tokens that end with a segment of quoted text that no mark closes. -/
def EndsUnclosed (ts : List Token) : Prop := (markAfter none ts).isSome = true

instance (ts : List Token) : Decidable (EndsUnclosed ts) :=
  inferInstanceAs (Decidable (_ = true))

/-- A text of blanks, with at least one of them. -/
structure IsGap (gap : String) : Prop where
  ne_empty : gap ≠ ""
  isBlanks : IsBlanks gap.toList

/-- Passages, each with a gap behind it, and a passage behind the last gap. -/
def spaced (last : String) : List (String × String) → String
  | [] => last
  | (passage, gap) :: passages => passage ++ gap ++ spaced last passages

variable {mode : Option Char} {c mark : Char}

/-! ### The mark that is open -/

theorem markAfter_cons (mode : Option Char) (t : Token) (ts : List Token) :
    markAfter mode (t :: ts) = markAfter (markBehind mode t) ts := rfl

theorem markBehind_of_not_isQuoted {t : Token} (h : t.isQuoted = false) (mode : Option Char) :
    markBehind mode t = mode := by
  cases t <;> first | (cases mode <;> rfl) | cases h

theorem markAfter_consText (pieces : List Piece) :
    markAfter (some mark) ((Piece.consText c pieces).filterMap Piece.token?) =
      markAfter (some mark) (pieces.filterMap Piece.token?) := by
  unfold Piece.consText
  split <;> rfl

theorem markAfter_consWord (pieces : List Piece) :
    markAfter none ((Piece.consWord c pieces).filterMap Piece.token?) =
      markAfter none (pieces.filterMap Piece.token?) := by
  unfold Piece.consWord
  split <;> rfl

/-- The mark that is open behind a text is the one that is open behind its tokens. -/
theorem markAfter_pieces (mode : Option Char) (text : List Char) :
    markAfter mode ((pieces mode text).filterMap Piece.token?) = modeAfter mode text := by
  fun_induction pieces mode text with
  | case1 => rfl
  | case2 mark rest ih =>
    rw [modeAfter, if_pos rfl, ← ih]
    rfl
  | case3 mark c rest hc ih => rw [modeAfter, if_neg hc, markAfter_consText, ih]
  | case4 rest ih => exact ih
  | case5 c rest _ hblank ih =>
    rw [modeAfter, if_neg (not_isQuote_of_isBlank hblank), ← ih]
    rfl
  | case6 c rest _ _ hquote ih =>
    rw [modeAfter, if_pos hquote, ← ih]
    rfl
  | case7 c rest _ _ hquote mark hmark ih =>
    rw [modeAfter, if_neg hquote, ← ih]
    change markAfter none (mark :: (pieces none rest).filterMap Piece.token?) = _
    rw [markAfter_cons, markBehind_of_not_isQuoted (isQuoted_ofMark? hmark)]
  | case8 c rest _ _ hquote _ ih => rw [modeAfter, if_neg hquote, markAfter_consWord, ih]

theorem modeAfter_of_not_endsUnclosed {source : String} (h : ¬ EndsUnclosed (tokensOf source)) :
    modeAfter none source.toList = none := by
  rwa [EndsUnclosed, tokensOf, map_token_scan, markAfter_pieces, Bool.not_eq_true,
    Option.isSome_eq_false_iff, Option.isNone_iff_eq_none] at h

/-! ### Sources -/

theorem map_token_relocate (f : Span → Span) (ls : List Lexeme) :
    (ls.map (Lexeme.relocate f)).map Lexeme.token = ls.map Lexeme.token := by
  rw [List.map_map]
  rfl

/-- A gap behind a text whose tokens do not end inside quoted text parts it from what follows. -/
theorem scan_append_of_isGap {front gap : String} (back : String)
    (hfront : ¬ EndsUnclosed (tokensOf front)) (hgap : IsGap gap) :
    scan (front ++ gap ++ back) =
      scan front ++ (scan back).map (Lexeme.relocate (Span.shift (front ++ gap).utf8ByteSize)) :=
  scan_append_gap back (modeAfter_of_not_endsUnclosed hfront) hgap.isBlanks hgap.ne_empty

theorem tokensOf_spaced (last : String) {passages : List (String × String)}
    (h : ∀ p ∈ passages, ¬ EndsUnclosed (tokensOf p.1) ∧ IsGap p.2) :
    tokensOf (spaced last passages) =
      passages.flatMap (fun p => tokensOf p.1) ++ tokensOf last := by
  induction passages with
  | nil => rfl
  | cons p passages ih =>
    obtain ⟨⟨hclosed, hgap⟩, hpassages⟩ := List.forall_mem_cons.1 h
    rw [spaced, tokensOf, scan_append_of_isGap _ hclosed hgap, List.map_append,
      map_token_relocate, List.flatMap_cons, List.append_assoc, ← ih hpassages]
    rfl

/-- A source may be cut at its gaps. The tokens before a gap outside quoted text are those of the
source up to the gap, and the tokens behind it are those of the source from there on, as many bytes
further to the right as there are before them. So the tokens of passages that end outside quoted
text do not depend on the gaps between them. -/
theorem scan_gaps (front gap back last : String) (passages : List (String × String)) :
    (¬ EndsUnclosed (tokensOf front) → IsGap gap →
      scan (front ++ gap ++ back) =
        scan front ++
          (scan back).map (Lexeme.relocate (Span.shift (front ++ gap).utf8ByteSize))) ∧
    ((∀ p ∈ passages, ¬ EndsUnclosed (tokensOf p.1) ∧ IsGap p.2) →
      tokensOf (spaced last passages) =
        passages.flatMap (fun p => tokensOf p.1) ++ tokensOf last) :=
  ⟨scan_append_of_isGap back, tokensOf_spaced last⟩

/-- A gap of two bytes and one of three inside what would be an arrow, and quoted text that is not
closed behind the last gap. -/
theorem scan_gaps_arrow :
    scan ("'a b'c-" ++ "\u00a0" ++ "-> 'd ") =
      scan "'a b'c-" ++ (scan "-> 'd ").map (Lexeme.relocate (Span.shift 9)) ∧
    tokensOf (spaced "'d " [("'a b'c-", "\u00a0"), ("->", "\u2003")]) =
      [quote '\'', text ['a', ' ', 'b'], quote '\'', identifier ['c', '-'],
        identifier ['-', '>'], quote '\'', text ['d', ' ']] := by
  have hword : ¬ EndsUnclosed (tokensOf "'a b'c-") := by decide +kernel
  have hdash : ¬ EndsUnclosed (tokensOf "->") := by decide +kernel
  have hnarrow : IsGap "\u00a0" := ⟨by decide, List.forall_mem_singleton.2 rfl⟩
  have hwide : IsGap "\u2003" := ⟨by decide, List.forall_mem_singleton.2 rfl⟩
  have hgaps := scan_gaps "'a b'c-" "\u00a0" "-> 'd " "'d "
    [("'a b'c-", "\u00a0"), ("->", "\u2003")]
  refine ⟨hgaps.1 hword hnarrow, (hgaps.2 ?_).trans (by decide +kernel)⟩
  exact List.forall_mem_cons.2 ⟨⟨hword, hnarrow⟩, List.forall_mem_singleton.2 ⟨hdash, hwide⟩⟩

end BoxArrow.Token
