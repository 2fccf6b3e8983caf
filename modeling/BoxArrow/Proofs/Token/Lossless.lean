import BoxArrow.Proofs.Token.Concatenation
import BoxArrow.Proofs.Token.Rules
import BoxArrow.Proofs.Token.Spelling

/-!
# Lexemes lose nothing

Every byte of a source is either part of one lexeme or part of a blank. A lexeme knows exactly which
bytes of the source it stands for, and writing it down gives them back. This holds because the rules
take every text apart, without ever folding a character into a word that the word rule would not
take.

## Main definitions

* `Lexeme.TakeApart` — lexemes that take a source apart

## Main results

* `Token.mem_scan_iff` — the lexemes of a source are the tokens among its pieces
* `Token.exists_piece_at` — each character of a text is in a piece
* `Token.scan_lossless` — the lexemes of a source take it apart, and no character is folded
-/

namespace BoxArrow

open Text (isBlank)

/-- Lexemes that stand one behind the other in a source, each with its own text at its place, and
with only blanks between them. -/
structure Lexeme.TakeApart (source : String) (ls : List Lexeme) : Prop where
  start_lt_stop : ∀ l ∈ ls, l.span.start < l.span.stop
  covers : ∀ l ∈ ls, l.span.Covers source l.token.display
  pairwise : ls.Pairwise fun l l' =>
    l.span.start < l'.span.start ∧ l.span.stop ≤ l'.span.start
  /-- A character whose bytes are in no lexeme is a blank. -/
  isBlank_of_forall : ∀ before c after, source = before ++ String.singleton c ++ after →
    (∀ l ∈ ls, ¬ (l.span.start ≤ before.utf8ByteSize ∧
      before.utf8ByteSize + c.utf8Size ≤ l.span.stop)) → isBlank c = true

namespace Token

variable {source : String} {l : Lexeme} {c : Char} {before after : List Char}

/-- The lexemes of a source are the tokens among its pieces, each with the bytes that it takes
behind those of the pieces before it. -/
theorem mem_scan_iff :
    l ∈ scan source ↔ ∃ front back, pieces none source.toList = front ++ .token l.token :: back ∧
      l.span = ⟨Text.byteLength (front.flatMap Piece.chars),
        Text.byteLength (front.flatMap Piece.chars) + Text.byteLength l.token.chars⟩ := by
  constructor
  · intro hl
    obtain ⟨before, after, hscan⟩ := List.append_of_mem hl
    obtain ⟨front, back, hpieces, hstart, hlocate⟩ := exists_front_of_locate hscan
    refine ⟨front, back, hpieces, ?_⟩
    rw [locate] at hlocate
    rw [Nat.zero_add] at hstart
    rw [← hstart, ← congrArg Lexeme.span (List.cons.inj hlocate).1]
  · rintro ⟨front, back, hpieces, hspan⟩
    rw [scan, hpieces, locate_append, locate, Nat.zero_add, ← hspan]
    exact List.mem_append_right _ List.mem_cons_self

/-- Each character of a text is in a piece, at a place that the pieces before it determine. -/
theorem exists_piece_at {pieces : List Piece}
    (h : pieces.flatMap Piece.chars = before ++ c :: after) :
    ∃ front p back left right, pieces = front ++ p :: back ∧ p.chars = left ++ c :: right ∧
      before = front.flatMap Piece.chars ++ left ∧ after = right ++ back.flatMap Piece.chars := by
  induction pieces generalizing before with
  | nil => exact absurd h.symm (by simp)
  | cons p pieces ih =>
    rw [List.flatMap_cons] at h
    -- The character is in the first piece, or among the pieces behind it.
    rcases List.append_eq_append_iff.1 h with ⟨left, rfl, hrest⟩ | ⟨right, hchars, hrest⟩
    · obtain ⟨front, q, back, left, right, rfl, hq, rfl, rfl⟩ := ih hrest
      exact ⟨p :: front, q, back, left, right, rfl, hq, by simp, rfl⟩
    · cases right with
      | nil =>
        have hbehind : pieces.flatMap Piece.chars = [] ++ c :: after := hrest.symm
        obtain ⟨front, q, back, left, right, rfl, hq, hnil, rfl⟩ := ih hbehind
        exact ⟨p :: front, q, back, left, right, rfl, hq, by simp [hchars, ← hnil], rfl⟩
      | cons d right =>
        obtain ⟨rfl, rfl⟩ := List.cons.inj hrest
        exact ⟨[], p, pieces, before, right, rfl, hchars, rfl, rfl⟩

/-- The text of a token stands between those of the pieces before and behind it. -/
theorem eq_append_of_pieces {t : Token} {front back : List Piece}
    (h : pieces none source.toList = front ++ .token t :: back) :
    source = .ofList (front.flatMap Piece.chars) ++ t.display ++
      .ofList (back.flatMap Piece.chars) := by
  have htext := pieces_flatMap_chars none source.toList
  rw [h, List.flatMap_append, List.flatMap_cons] at htext
  rw [display, ← String.ofList_append, ← String.ofList_append, List.append_assoc]
  exact ((congrArg String.ofList htext).trans String.ofList_toList).symm

theorem covers_of_mem_scan (h : l ∈ scan source) : l.span.Covers source l.token.display := by
  obtain ⟨front, back, hpieces, hspan⟩ := mem_scan_iff.1 h
  refine ⟨_, _, eq_append_of_pieces hpieces, ?_⟩
  rw [hspan, display, Text.utf8ByteSize_ofList, Text.utf8ByteSize_ofList]

theorem start_lt_stop_of_mem_scan (h : l ∈ scan source) : l.span.start < l.span.stop := by
  obtain ⟨front, back, hpieces, hspan⟩ := mem_scan_iff.1 h
  have hmem : .token l.token ∈ pieces none source.toList := by simp [hpieces]
  rw [hspan]
  exact Nat.lt_add_of_pos_right (Text.byteLength_pos (chars_ne_nil_of_mem_pieces hmem))

/-- A character that is in no lexeme is a blank: the piece that it is in is no token. -/
theorem isBlank_of_forall_mem_scan (hsource : source.toList = before ++ c :: after)
    (h : ∀ l ∈ scan source, ¬ (l.span.start ≤ Text.byteLength before ∧
      Text.byteLength before + c.utf8Size ≤ l.span.stop)) : isBlank c = true := by
  obtain ⟨front, p, back, left, right, hpieces, hp, rfl, -⟩ :=
    exists_piece_at ((pieces_flatMap_chars none source.toList).trans hsource)
  cases p with
  | blank b =>
    have hc : c ∈ (Piece.blank b).chars := hp ▸ List.mem_append_right left List.mem_cons_self
    have hmem : .blank b ∈ pieces none source.toList := by simp [hpieces]
    rw [List.mem_singleton.1 hc]
    exact isBlank_of_mem_pieces hmem
  | token t =>
    have hl : ⟨t, Text.byteLength (front.flatMap Piece.chars),
        Text.byteLength (front.flatMap Piece.chars) + Text.byteLength t.chars⟩ ∈ scan source :=
      mem_scan_iff.2 ⟨front, back, hpieces, rfl⟩
    have hlength : Text.byteLength t.chars = _ := congrArg Text.byteLength hp
    refine absurd ?_ (h _ hl)
    simp only [hlength, Text.byteLength_append, Text.byteLength_cons]
    omega

theorem takeApart_scan (source : String) : Lexeme.TakeApart source (scan source) where
  start_lt_stop _ := start_lt_stop_of_mem_scan
  covers _ := covers_of_mem_scan
  pairwise := by
    apply List.Pairwise.imp_of_mem _ (Lexeme.areOrdered_scan source).pairwise
    intro l l' hl _ hle
    exact ⟨Nat.lt_of_lt_of_le (start_lt_stop_of_mem_scan hl) hle, hle⟩
  isBlank_of_forall before c after hsource h := by
    have htext : source.toList = before.toList ++ c :: after.toList := by
      simpa using congrArg String.toList hsource
    apply isBlank_of_forall_mem_scan htext
    rwa [Text.byteLength_toList]

/-- The lexemes of a source take it apart. They are what the rules take, round by round, and no
round has to fold a character: each text that does not start with a blank starts with a segment of
quoted text or with a single token, which has at least one character. -/
theorem scan_lossless (source : String) :
    Lexeme.TakeApart source (scan source) ∧
    scan source = locate 0 ((rounds source.toList).flatMap Round.pieces) ∧
    (∀ r ∈ rounds source.toList, ∀ c, r ≠ .folded c) ∧
    ∀ c rest, isBlank c = false →
      (∃ ts behind, quoted? (c :: rest) = some (ts, behind) ∧ ts.flatMap chars ≠ [] ∧
        ts.flatMap chars ++ behind = c :: rest) ∨
      quoted? (c :: rest) = none ∧ ∃ t behind, single? (c :: rest) = some (t, behind) ∧
        t.chars ≠ [] ∧ t.chars ++ behind = c :: rest := by
  refine ⟨takeApart_scan source, ?_, ?_, ?_⟩
  · rw [scan, pieces_eq_flatMap_rounds]
  · exact fun r hr c => not_folded_of_mem_rounds c r hr
  · exact fun c rest hblank => exists_taken hblank rest

end Token

end BoxArrow
