import BoxArrow.Proofs.Token.Lexical

/-!
# Texts that are spelled token by token

The tokens of a text that is put together from blanks, words, marks and closed quoted text are those
of its parts. In the other direction, a text with a single word for its tokens is that word, with
blanks around it.

## Main definitions

* `Token.tokens` — the tokens of a text
* `Token.quotedText` — the tokens of quoted text with its marks
* `Token.WordText` — a text that is a single word

## Main results

* `Token.tokens_word_append`, `Token.tokens_quoted_append` — a word and quoted text before a text
* `Token.WordText.exists_eq_append` — a text that is a single word, with the blanks around it
-/

namespace BoxArrow.Token

open Text (isBlank isQuote IsBlanks)

variable {c : Char} {t : Token} {ts : List Token} {name content front tail : List Char}
  {mode : Option Char}

/-- The tokens of a text. -/
def tokens (text : List Char) : List Token := (pieces none text).filterMap Piece.token?

theorem tokensOf_eq_tokens (source : String) : tokensOf source = tokens source.toList :=
  map_token_scan source

/-! ### Parts of a text -/

theorem tokens_mark (h : ofMark? c = some t) (rest : List Char) :
    tokens (c :: rest) = t :: tokens rest := by
  rw [tokens, pieces_mark h]
  rfl

theorem tokens_blanks_append (h : IsBlanks front) (rest : List Char) :
    tokens (front ++ rest) = tokens rest := by
  rw [tokens, pieces_blanks_append h, List.filterMap_append, filterMap_token?_blanks,
    List.nil_append, tokens]

theorem tokens_word_append (h : IsWord name) (htail : EndsWord tail) :
    tokens (name ++ tail) = identifier name :: tokens tail := by
  rw [tokens, pieces_word_append h htail]
  rfl

/-- The tokens of quoted text. Two marks with nothing between them have no text. -/
def quotedText (mark : Char) (content : List Char) : List Token :=
  if content = [] then [quote mark, quote mark] else [quote mark, text content, quote mark]

theorem tokens_quoted_append (hquote : isQuote c = true) (hmem : c ∉ content) (rest : List Char) :
    tokens (c :: (content ++ c :: rest)) = quotedText c content ++ tokens rest := by
  rw [tokens, pieces_quote hquote, quotedText]
  by_cases hne : content = []
  · subst hne
    rw [if_pos rfl, List.nil_append, pieces_some, if_pos rfl]
    rfl
  · rw [if_neg hne, pieces_quoted hne hmem]
    rfl

theorem renderChars_quotedText (c : Char) (content : List Char) (ts : List Token) :
    renderChars (quotedText c content ++ ts) = c :: (content ++ c :: renderChars ts) := by
  unfold quotedText
  split
  · rename_i hcontent
    rw [hcontent, List.cons_append, List.cons_append, renderChars_cons rfl, renderChars_cons rfl]
    rfl
  · rw [List.cons_append, List.cons_append, List.cons_append, renderChars_cons rfl,
      renderChars_cons rfl, renderChars_cons rfl]
    rfl

/-! ### Texts with a single word -/

/-- A blank among the pieces of a text is a blank. -/
theorem isBlank_of_mem_pieces {text : List Char} (h : .blank c ∈ pieces mode text) :
    isBlank c = true := by
  fun_induction pieces mode text with
  | case1 => cases h
  | case2 => simp_all
  | case3 mark d rest hd ih =>
    apply ih
    unfold Piece.consText at h
    split at h <;> simp_all
  | case4 => simp_all
  | case5 d rest _ hblank ih =>
    rcases List.mem_cons.1 h with h | h
    · cases h
      exact hblank
    · exact ih h
  | case6 => simp_all
  | case7 => simp_all
  | case8 d rest _ _ _ _ ih =>
    apply ih
    unfold Piece.consWord at h
    split at h <;> simp_all

/-- Pieces of a text that are no tokens are blanks. -/
theorem isBlanks_flatMap_chars (text : List Char) {ps : List Piece} (hps : ps ⊆ pieces none text)
    (h : ∀ p ∈ ps, p.token? = none) : IsBlanks (ps.flatMap Piece.chars) := by
  intro c hc
  obtain ⟨p, hp, hc⟩ := List.mem_flatMap.1 hc
  cases p with
  | blank b =>
    cases List.mem_singleton.1 hc
    exact isBlank_of_mem_pieces (hps hp)
  | token t => cases h _ hp

/-- A text that is a single word. There may be blanks around it. -/
structure WordText where
  text : String
  name : List Char
  tokensOf_text : tokensOf text = [identifier name]

namespace WordText

variable (word : WordText)

theorem isWord : IsWord word.name := by
  have hlexical := isLexical_scan word.text
  rw [word.tokensOf_text] at hlexical
  cases hlexical with
  | word hname _ => exact hname
  | mark hmark _ => exact absurd (ne_identifier_of_ofMark? hmark) (by simp [Token.isWord])

/-- The text is the word with blanks around it. -/
theorem exists_eq_append :
    ∃ front back, IsBlanks front ∧ IsBlanks back ∧
      word.text.toList = front ++ (word.name ++ back) := by
  have htokens := word.tokensOf_text
  rw [tokensOf_eq_tokens, tokens, List.filterMap_eq_cons_iff] at htokens
  obtain ⟨before, p, after, hpieces, hbefore, hp, hafter⟩ := htokens
  have htext := pieces_flatMap_chars none word.text.toList
  rw [hpieces, List.flatMap_append, List.flatMap_cons] at htext
  have hchars : p.chars = word.name := by
    cases p with
    | blank b => cases hp
    | token t =>
      cases hp
      rfl
  rw [hchars] at htext
  refine ⟨before.flatMap Piece.chars, after.flatMap Piece.chars, ?_, ?_, htext.symm⟩
  · apply isBlanks_flatMap_chars word.text.toList _ hbefore
    simp [hpieces]
  · apply isBlanks_flatMap_chars word.text.toList _ (List.filterMap_eq_nil_iff.1 hafter)
    intro q hq
    simp [hpieces, hq]

/-- A word before a mark, or before anything else that ends it, whatever blanks are around it. -/
theorem tokens_append (htail : EndsWord tail) :
    tokens (word.text.toList ++ tail) = identifier word.name :: tokens tail := by
  obtain ⟨front, back, hfront, hback, htext⟩ := word.exists_eq_append
  have hends : EndsWord (back ++ tail) := by
    cases back with
    | nil => exact htail
    | cons b back => exact endsWord_cons (by simp [isWordChar, hback b]) _
  rw [htext, List.append_assoc, tokens_blanks_append hfront, List.append_assoc,
    tokens_word_append word.isWord hends, tokens_blanks_append hback]

/-- A text without blanks is the word itself. -/
theorem ofList_name_eq (h : ∀ c ∈ word.text.toList, isBlank c = false) :
    String.ofList word.name = word.text := by
  obtain ⟨front, back, hfront, hback, htext⟩ := word.exists_eq_append
  have hnil : ∀ blanks, IsBlanks blanks → (∀ c ∈ blanks, isBlank c = false) → blanks = [] := by
    intro blanks hblanks hnone
    rw [List.eq_nil_iff_forall_not_mem]
    intro c hc
    exact Bool.false_ne_true ((hnone c hc).symm.trans (hblanks c hc))
  rw [htext] at h
  rw [hnil front hfront fun c hc => h c (by simp [hc]),
    hnil back hback fun c hc => h c (by simp [hc]), List.nil_append, List.append_nil] at htext
  rw [← htext, String.ofList_toList]

end WordText

end BoxArrow.Token
