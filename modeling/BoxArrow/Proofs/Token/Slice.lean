import BoxArrow.Proofs.Token.Extent
import BoxArrow.Proofs.Token.Lexical

/-!
# Slices of a source

A text is cut from its start to its end, and what a piece is may depend on the mark that is open
before it. A part of the pieces, written down and cut on its own, falls into the same pieces again,
as long as it starts outside quoted text. So neighbouring lexemes of a source are the lexemes of the
text that they cover.

## Main definitions

* `Span.Covers` — the bytes of a source that a span stands for are those of a text

## Main results

* `Token.pieces_front`, `Token.exists_pieces_back` — a part of the pieces of a text is cut again
* `Token.exists_covers_extent` — the text that neighbouring lexemes cover has the same tokens
-/

namespace BoxArrow

/-- The bytes of a source from the start to the stop of a span are those of a text. No character
lies across either of the two. -/
def Span.Covers (span : Span) (source text : String) : Prop :=
  ∃ before after, source = before ++ text ++ after ∧
    span = ⟨before.utf8ByteSize, before.utf8ByteSize + text.utf8ByteSize⟩

namespace Piece

variable {c : Char} {p : Piece} {pieces front back : List Piece}

/-- A word that one more character starts stands before what was there, or before what stood behind
the word that it makes longer. -/
theorem exists_of_consWord_eq_cons (h : consWord c pieces = p :: back) :
    (∃ name, p = .token (.identifier (c :: name)) ∧ pieces = .token (.identifier name) :: back) ∨
    p = .token (.identifier [c]) ∧ pieces = back ∧
      ∀ name others, pieces ≠ .token (.identifier name) :: others := by
  unfold consWord at h
  split at h
  · obtain ⟨rfl, rfl⟩ := List.cons.inj h
    exact .inl ⟨_, rfl, rfl⟩
  · rename_i hword
    obtain ⟨rfl, rfl⟩ := List.cons.inj h
    exact .inr ⟨rfl, rfl, fun name others e => hword name others e⟩

theorem exists_of_consText_eq_cons (h : consText c pieces = p :: back) :
    (∃ content, p = .token (.text (c :: content)) ∧ pieces = .token (.text content) :: back) ∨
    p = .token (.text [c]) ∧ pieces = back ∧
      ∀ content others, pieces ≠ .token (.text content) :: others := by
  unfold consText at h
  split at h
  · obtain ⟨rfl, rfl⟩ := List.cons.inj h
    exact .inl ⟨_, rfl, rfl⟩
  · rename_i htext
    obtain ⟨rfl, rfl⟩ := List.cons.inj h
    exact .inr ⟨rfl, rfl, fun content others e => htext content others e⟩

theorem consWord_of_ne (h : ∀ name others, pieces ≠ .token (.identifier name) :: others) :
    consWord c pieces = .token (.identifier [c]) :: pieces := by
  unfold consWord
  split
  · exact absurd rfl (h _ _)
  · rfl

theorem consText_of_ne (h : ∀ content others, pieces ≠ .token (.text content) :: others) :
    consText c pieces = .token (.text [c]) :: pieces := by
  unfold consText
  split
  · exact absurd rfl (h _ _)
  · rfl

end Piece

namespace Token

variable {mode : Option Char} {text : List Char} {front back : List Piece}

/-! ### Parts of the pieces of a text -/

@[simp] theorem pieces_nil (mode : Option Char) : pieces mode [] = [] := by
  cases mode <;> rfl

/-- The first pieces of a text do not depend on what stands behind them. -/
theorem pieces_front (h : pieces mode text = front ++ back) :
    pieces mode (front.flatMap Piece.chars) = front := by
  fun_induction pieces mode text generalizing front with
  | case1 mode =>
    obtain ⟨rfl, -⟩ := List.append_eq_nil_iff.1 h.symm
    exact pieces_nil mode
  | case2 mark rest ih =>
    rcases List.cons_eq_append_iff.1 h with ⟨rfl, -⟩ | ⟨front, rfl, hrest⟩
    · rfl
    · change pieces (some mark) (mark :: front.flatMap Piece.chars) = _
      rw [pieces_some, if_pos rfl, ih hrest]
  | case3 mark c rest hc ih =>
    cases front with
    | nil => rfl
    | cons p front =>
      rcases Piece.exists_of_consText_eq_cons h with ⟨content, rfl, hrest⟩ | ⟨rfl, hrest, hne⟩
      · -- The text at the start is longer by one character than the text behind it.
        change pieces (some mark) (c :: (.token (.text content) :: front).flatMap Piece.chars) = _
        rw [pieces_some, if_neg hc, ih hrest]
        rfl
      · change pieces (some mark) (c :: front.flatMap Piece.chars) = _
        rw [pieces_some, if_neg hc, ih hrest, Piece.consText_of_ne]
        rintro content others rfl
        exact hne content (others ++ back) hrest
  | case4 rest ih =>
    rcases List.cons_eq_append_iff.1 h with ⟨rfl, -⟩ | ⟨front, rfl, hrest⟩
    · rfl
    · change pieces none ('-' :: '-' :: '>' :: front.flatMap Piece.chars) = _
      rw [pieces_arrow, ih hrest]
  | case5 c rest harrow hblank ih =>
    rcases List.cons_eq_append_iff.1 h with ⟨rfl, -⟩ | ⟨front, rfl, hrest⟩
    · rfl
    · change pieces none (c :: front.flatMap Piece.chars) = _
      rw [pieces_blank hblank, ih hrest]
  | case6 c rest harrow hblank hquote ih =>
    rcases List.cons_eq_append_iff.1 h with ⟨rfl, -⟩ | ⟨front, rfl, hrest⟩
    · rfl
    · change pieces none (c :: front.flatMap Piece.chars) = _
      rw [pieces_quote hquote, ih hrest]
  | case7 c rest harrow hblank hquote mark hmark ih =>
    rcases List.cons_eq_append_iff.1 h with ⟨rfl, -⟩ | ⟨front, rfl, hrest⟩
    · rfl
    · change pieces none (mark.chars ++ front.flatMap Piece.chars) = _
      rw [chars_ofMark? hmark, List.singleton_append, pieces_mark hmark, ih hrest]
  | case8 c rest harrow hblank hquote hmark ih =>
    have hc : isWordChar c = true :=
      isWordChar_iff.2 ⟨eq_false_of_ne_true hblank, eq_false_of_ne_true hquote, hmark⟩
    -- An arrow that starts in the first pieces is one in the text.
    have hstart : ∀ {front : List Piece} {tail : List Char}, pieces none rest = front ++ back →
        c = '-' → front.flatMap Piece.chars = '-' :: '>' :: tail → False := by
      intro front tail hrest hdash htail
      apply harrow (tail ++ back.flatMap Piece.chars) hdash
      rw [← pieces_flatMap_chars none rest, hrest, List.flatMap_append, htail]
      rfl
    cases front with
    | nil => rfl
    | cons p front =>
      rcases Piece.exists_of_consWord_eq_cons h with ⟨name, rfl, hrest⟩ | ⟨rfl, hrest, hne⟩
      · change pieces none (c :: (.token (.identifier name) :: front).flatMap Piece.chars) = _
        rw [pieces_wordChar hc fun _ => hstart hrest, ih hrest]
        rfl
      · change pieces none (c :: front.flatMap Piece.chars) = _
        rw [pieces_wordChar hc fun _ => hstart hrest, ih hrest, Piece.consWord_of_ne]
        rintro name others rfl
        exact hne name (others ++ back) hrest

/-- Behind the first piece of a text stand the pieces of a text. -/
theorem exists_pieces_tail {p : Piece} (h : pieces mode text = p :: back) :
    ∃ mode' text', pieces mode' text' = back := by
  fun_induction pieces mode text generalizing p with
  | case1 => cases h
  | case2 _ rest | case4 rest | case5 _ rest | case6 _ rest | case7 _ rest =>
    exact ⟨_, rest, (List.cons.inj h).2⟩
  | case3 mark c rest hc ih =>
    rcases Piece.exists_of_consText_eq_cons h with ⟨content, -, hrest⟩ | ⟨-, hrest, -⟩
    · exact ih hrest
    · exact ⟨some mark, rest, hrest⟩
  | case8 c rest _ _ _ _ ih =>
    rcases Piece.exists_of_consWord_eq_cons h with ⟨name, -, hrest⟩ | ⟨-, hrest, -⟩
    · exact ih hrest
    · exact ⟨none, rest, hrest⟩

/-- The last pieces of a text are those of a text, in or out of quoted text. -/
theorem exists_pieces_back (h : pieces mode text = front ++ back) :
    ∃ mode', pieces mode' (back.flatMap Piece.chars) = back := by
  induction front generalizing mode text with
  | nil =>
    rw [List.nil_append] at h
    exact ⟨mode, by rw [← h, pieces_flatMap_chars]⟩
  | cons p front ih =>
    obtain ⟨mode', text', htail⟩ := exists_pieces_tail h
    exact ih htail

/-- A text that starts inside quoted text starts with a token of it. -/
theorem isQuoted_of_pieces_some {mark : Char} {t : Token}
    (h : pieces (some mark) text = .token t :: back) : t.isQuoted = true := by
  cases text with
  | nil => cases h
  | cons c rest =>
    rw [pieces_some] at h
    split at h
    · cases h
      rfl
    · rcases Piece.exists_of_consText_eq_cons h with ⟨content, ht, -⟩ | ⟨ht, -, -⟩ <;>
        cases ht <;> rfl

/-- A part of the pieces of a text, written down and cut on its own, falls into the same pieces, if
it does not start inside quoted text. -/
theorem pieces_part {middle : List Piece} {t : Token}
    (h : pieces mode text = front ++ (.token t :: middle) ++ back) (ht : t.isQuoted = false) :
    pieces none ((.token t :: middle).flatMap Piece.chars) = .token t :: middle := by
  rw [List.append_assoc] at h
  obtain ⟨mode', hback⟩ := exists_pieces_back h
  have hfront := pieces_front hback
  cases mode' with
  | none => exact hfront
  | some mark =>
    have hquoted := isQuoted_of_pieces_some hfront
    rw [ht] at hquoted
    cases hquoted

/-! ### Parts of the lexemes of a source -/

variable {offset : Nat} {pieces : List Piece} {before used after : List Lexeme}

/-- What stands before a lexeme is located before it. -/
theorem exists_front_of_locate {l : Lexeme} (h : locate offset pieces = before ++ l :: after) :
    ∃ front back, pieces = front ++ .token l.token :: back ∧
      l.span.start = offset + Text.byteLength (front.flatMap Piece.chars) ∧
      locate l.span.start (.token l.token :: back) = l :: after := by
  fun_induction locate offset pieces generalizing before with
  | case1 => cases List.append_ne_nil_of_right_ne_nil before (List.cons_ne_nil l after) h.symm
  | case2 offset c pieces ih =>
    obtain ⟨front, back, rfl, hstart, hrest⟩ := ih h
    refine ⟨.blank c :: front, back, rfl, ?_, hrest⟩
    rw [hstart, List.flatMap_cons, Text.byteLength_append, Nat.add_assoc]
    rfl
  | case3 offset t pieces ih =>
    rcases List.cons_eq_append_iff.1 h with ⟨rfl, hl⟩ | ⟨before, rfl, hrest⟩
    · obtain ⟨rfl, rfl⟩ := List.cons.inj hl
      exact ⟨[], pieces, rfl, rfl, by rw [locate]⟩
    · obtain ⟨front, back, rfl, hstart, hrest⟩ := ih hrest
      refine ⟨.token t :: front, back, rfl, ?_, hrest⟩
      rw [hstart, List.flatMap_cons, Text.byteLength_append, Nat.add_assoc]
      rfl

/-- The first lexemes that are located are those of the first pieces, up to where they stop. -/
theorem exists_own_of_locate (h : locate offset pieces = used ++ after) (hused : used ≠ []) :
    ∃ own back, pieces = own ++ back ∧ locate offset own = used ∧
      (Lexeme.extent used).stop = offset + Text.byteLength (own.flatMap Piece.chars) := by
  fun_induction locate offset pieces generalizing used with
  | case1 => exact absurd (List.append_eq_nil_iff.1 h.symm).1 hused
  | case2 offset c pieces ih =>
    obtain ⟨own, back, rfl, rfl, hstop⟩ := ih h hused
    refine ⟨.blank c :: own, back, rfl, by rw [locate], ?_⟩
    rw [hstop, List.flatMap_cons, Text.byteLength_append, Nat.add_assoc]
    rfl
  | case3 offset t pieces ih =>
    rcases List.cons_eq_append_iff.1 h with ⟨rfl, -⟩ | ⟨used', rfl, hrest⟩
    · exact absurd rfl hused
    · cases used' with
      | nil =>
        refine ⟨[.token t], pieces, rfl, by rw [locate, locate], ?_⟩
        simp [Lexeme.extent, Piece.chars]
      | cons l used' =>
        obtain ⟨own, back, rfl, hown, hstop⟩ := ih hrest (List.cons_ne_nil _ _)
        refine ⟨.token t :: own, back, rfl, by rw [locate, hown], ?_⟩
        -- The extent of lexemes stops where the last one does, which a first one does not change.
        have hlast : (Lexeme.extent (⟨t, offset, offset + Text.byteLength t.chars⟩ ::
            l :: used')).stop = (Lexeme.extent (l :: used')).stop := rfl
        rw [hlast, hstop, List.flatMap_cons, Text.byteLength_append, Nat.add_assoc]
        rfl

/-- The text that neighbouring lexemes cover has the same tokens, if the first of them is no part of
quoted text. -/
theorem exists_covers_extent {source : String} {l : Lexeme}
    (h : scan source = before ++ (l :: used) ++ after) (hl : l.token.isQuoted = false) :
    ∃ text, (Lexeme.extent (l :: used)).Covers source text ∧
      tokensOf text = (l :: used).map Lexeme.token := by
  rw [List.append_assoc, List.cons_append] at h
  obtain ⟨front, back, hpieces, hstart, hlocate⟩ := exists_front_of_locate h
  rw [← List.cons_append] at hlocate
  obtain ⟨own, back', hown, hused, hstop⟩ := exists_own_of_locate hlocate (List.cons_ne_nil l used)
  -- The pieces of the lexemes start with the first of them, and no blank stands before it.
  obtain ⟨middle, rfl⟩ : ∃ middle, own = .token l.token :: middle := by
    cases own with
    | nil => rw [locate] at hused; cases hused
    | cons p middle => exact ⟨middle, by rw [(List.cons.inj hown).1]⟩
  rw [hown, ← List.append_assoc] at hpieces
  refine ⟨.ofList ((.token l.token :: middle).flatMap Piece.chars),
    ⟨.ofList (front.flatMap Piece.chars), .ofList (back'.flatMap Piece.chars), ?_, ?_⟩, ?_⟩
  · rw [← String.ofList_append, ← String.ofList_append, ← List.flatMap_append,
      ← List.flatMap_append, ← hpieces, pieces_flatMap_chars, String.ofList_toList]
  · rw [Text.utf8ByteSize_ofList, Text.utf8ByteSize_ofList]
    rw [Nat.zero_add] at hstart
    have hfirst : (Lexeme.extent (l :: used)).start = l.span.start := rfl
    rw [← hstart, ← hstop, ← hfirst]
  · rw [tokensOf, map_token_scan, String.toList_ofList, pieces_part hpieces hl, ← hused,
      map_token_locate]

end Token

namespace Span.Covers

variable {span : Span} {source text : String}

theorem start_le_stop (h : span.Covers source text) : span.start ≤ span.stop := by
  obtain ⟨before, after, -, rfl⟩ := h
  exact Nat.le_add_right _ _

theorem stop_le (h : span.Covers source text) : span.stop ≤ source.utf8ByteSize := by
  obtain ⟨before, after, rfl, rfl⟩ := h
  rw [String.utf8ByteSize_append, String.utf8ByteSize_append]
  exact Nat.le_add_right _ _

end Span.Covers

end BoxArrow
