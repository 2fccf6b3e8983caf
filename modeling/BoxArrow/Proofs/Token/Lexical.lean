import BoxArrow.Proofs.Token.Lines

/-!
# Tokens written down and read again

Most tokens are written down without a space between them, so two of them might be read as one, or
in another way, when the text is cut into tokens again. This never happens to the tokens of a text:
a word only stands next to a token that ends it, and quoted text is closed by its mark or stands at
the end.

## Main definitions

* `Token.marks` — the ten characters that stand for themselves
* `Token.IsWord` — the characters of a word
* `Token.IsLexical` — the tokens that a text can have, in or out of quoted text
* `Token.EndsWord` — the texts that a word may stand directly before
* `Token.tokensOf` — the tokens of a source, without their places

## Main results

* `Token.ofMark?_eq_some_iff` — the characters that a text is cut at are those ten
* `Token.isLexical_pieces` — the tokens of a text are such tokens
* `Token.tokens_renderChars` — such tokens, written down, are read as they were
* `Token.IsLexical.between` — the tokens between two marks are such tokens again
-/

namespace BoxArrow.Token

open Text (isBlank isQuote)

/-- The ten characters that stand for themselves, each with its token. -/
def marks : List (Char × Token) :=
  [('{', leftBrace), ('}', rightBrace), (':', colon), ('@', atSign), ('(', leftParen),
    (')', rightParen), (',', comma), ('=', equals), ('.', dot), ('&', ampersand)]

/-- A character that words are made of: no blank, no quote mark, and none of the ten marks. -/
def isWordChar (c : Char) : Bool :=
  !isBlank c && !isQuote c && !(marks.map Prod.fst).contains c

/-- The characters of a word. None of them stands for itself, and no arrow is among them. -/
structure IsWord (name : List Char) : Prop where
  ne_nil : name ≠ []
  isWordChar_of_mem : ∀ c ∈ name, isWordChar c = true
  no_arrow : ¬ arrow.chars <:+: name

/-- The tokens that a text can have. With `some mark` the text starts inside quoted text that `mark`
closes, with `none` outside. -/
inductive IsLexical : Option Char → List Token → Prop
  | nil (mode : Option Char) : IsLexical mode []
  | word {name : List Char} {ts : List Token} : IsWord name → IsLexical none ts →
      IsLexical none (identifier name :: ts)
  | mark {c : Char} {t : Token} {ts : List Token} : ofMark? c = some t → IsLexical none ts →
      IsLexical none (t :: ts)
  | arrow {ts : List Token} : IsLexical none ts → IsLexical none (arrow :: ts)
  | opening {c : Char} {ts : List Token} : isQuote c = true → IsLexical (some c) ts →
      IsLexical none (quote c :: ts)
  | closing {c : Char} {ts : List Token} : IsLexical none ts → IsLexical (some c) (quote c :: ts)
  | quoted {c : Char} {content : List Char} {ts : List Token} : content ≠ [] → c ∉ content →
      IsLexical none ts → IsLexical (some c) (text content :: quote c :: ts)
  /-- Quoted text that is not closed runs to the end. -/
  | unclosed {c : Char} {content : List Char} : content ≠ [] → c ∉ content →
      IsLexical (some c) [text content]

variable {c : Char} {t : Token} {ts ts' : List Token} {name content rest tail : List Char}
  {mode : Option Char}

/-! ### The pieces of a text -/

theorem ofMark?_eq_some_iff : ofMark? c = some t ↔ (c, t) ∈ marks := by
  constructor
  · intro h
    unfold ofMark? at h
    split at h <;> cases h <;> decide
  · have hmarks : ∀ p ∈ marks, ofMark? p.1 = some p.2 := by decide
    exact hmarks (c, t)

theorem ofMark?_eq_none_iff : ofMark? c = none ↔ c ∉ marks.map Prod.fst := by
  simp [Option.eq_none_iff_forall_ne_some, ofMark?_eq_some_iff]

theorem isWordChar_iff :
    isWordChar c = true ↔ isBlank c = false ∧ isQuote c = false ∧ ofMark? c = none := by
  simp [isWordChar, ofMark?_eq_none_iff, and_assoc]

theorem isWordChar_of_ofMark? (h : ofMark? c = some t) : isWordChar c = false := by
  rw [Bool.eq_false_iff, ne_eq, isWordChar_iff, h]
  simp

theorem isQuote_of_ofMark? (h : ofMark? c = some t) : isQuote c = false := by
  have hmarks : ∀ p ∈ marks, isQuote p.1 = false := by decide
  exact hmarks (c, t) (ofMark?_eq_some_iff.1 h)

theorem ne_identifier_of_ofMark? (h : ofMark? c = some t) : t.isWord = false := by
  unfold ofMark? at h
  split at h <;> first | (cases h; rfl) | exact absurd h (by simp)

/-- A mark stands alone, whatever is written behind it. -/
theorem pieces_mark (h : ofMark? c = some t) (rest : List Char) :
    pieces none (c :: rest) = .token t :: pieces none rest := by
  unfold ofMark? at h
  split at h <;> first | (cases h; rfl) | exact absurd h (by simp)

theorem pieces_quote (h : isQuote c = true) (rest : List Char) :
    pieces none (c :: rest) = .token (quote c) :: pieces (some c) rest := by
  rw [pieces_none, if_neg fun hblank => Text.not_isQuote_of_isBlank hblank h, if_pos h]
  rintro tail rfl
  cases h

theorem pieces_wordChar (h : isWordChar c = true)
    (harrow : ∀ tail, c = '-' → rest = '-' :: '>' :: tail → False) :
    pieces none (c :: rest) = Piece.consWord c (pieces none rest) := by
  obtain ⟨hblank, hquote, hmark⟩ := isWordChar_iff.1 h
  rw [pieces_none harrow, if_neg (by simp [hblank]), if_neg (by simp [hquote]), hmark]

/-- Quoted text runs to the mark that closes it. -/
theorem pieces_quoted (hne : content ≠ []) (h : c ∉ content) (rest : List Char) :
    pieces (some c) (content ++ c :: rest) =
      .token (text content) :: .token (quote c) :: pieces none rest := by
  induction content with
  | nil => exact absurd rfl hne
  | cons d content ih =>
    obtain ⟨hd, hcontent⟩ := not_or.1 (List.mem_cons.not.1 h)
    rw [List.cons_append, pieces_some, if_neg fun e => hd e.symm]
    cases content with
    | nil => rw [List.nil_append, pieces_some, if_pos rfl]; rfl
    | cons e content => rw [ih (List.cons_ne_nil _ _) hcontent]; rfl

theorem pieces_unclosed (hne : content ≠ []) (h : c ∉ content) :
    pieces (some c) content = [.token (text content)] := by
  induction content with
  | nil => exact absurd rfl hne
  | cons d content ih =>
    obtain ⟨hd, hcontent⟩ := not_or.1 (List.mem_cons.not.1 h)
    rw [pieces_some, if_neg fun e => hd e.symm]
    cases content with
    | nil => rfl
    | cons e content => rw [ih (List.cons_ne_nil _ _) hcontent]; rfl

/-! ### The tokens of a text -/

theorem IsWord.singleton (h : isWordChar c = true) : IsWord [c] where
  ne_nil := List.cons_ne_nil _ _
  isWordChar_of_mem d hd := List.mem_singleton.1 hd ▸ h
  no_arrow harrow := by
    have hlength : 3 ≤ 1 := harrow.length_le
    omega

theorem IsWord.cons (h : IsWord name) (hc : isWordChar c = true)
    (harrow : ∀ tail, c = '-' → name = '-' :: '>' :: tail → False) : IsWord (c :: name) where
  ne_nil := List.cons_ne_nil _ _
  isWordChar_of_mem := List.forall_mem_cons.2 ⟨hc, h.isWordChar_of_mem⟩
  no_arrow hsub := by
    -- An arrow in the longer word would stand at its start.
    rcases List.infix_cons_iff.1 hsub with ⟨tail, hprefix⟩ | hsub
    · obtain ⟨hdash, hname⟩ := List.cons.inj hprefix
      exact harrow tail hdash.symm hname.symm
    · exact h.no_arrow hsub

/-- One more character makes the text at the start of the tokens longer, or starts one. -/
theorem isLexical_consText {mark : Char} {pieces : List Piece} (hc : c ≠ mark)
    (hfirst : ∀ b others, pieces ≠ .blank b :: others)
    (h : IsLexical (some mark) (pieces.filterMap Piece.token?)) :
    IsLexical (some mark) ((Piece.consText c pieces).filterMap Piece.token?) := by
  have hmem {content : List Char} (h : mark ∉ content) : mark ∉ c :: content := by
    rw [List.mem_cons, not_or]
    exact ⟨hc.symm, h⟩
  -- Inside a segment there are no tokens, or they start with its mark or with its text.
  match pieces with
  | [] => exact .unclosed (List.cons_ne_nil _ _) (hmem List.not_mem_nil)
  | .blank b :: others => exact absurd rfl (hfirst b others)
  | .token t :: others =>
    change IsLexical (some mark) (t :: others.filterMap Piece.token?) at h
    generalize hts : others.filterMap Piece.token? = ts at h
    cases h with
    | closing h =>
      change IsLexical _ (text [c] :: quote mark :: others.filterMap Piece.token?)
      exact .quoted (List.cons_ne_nil _ _) (hmem List.not_mem_nil) (hts ▸ h)
    | @quoted _ content _ _ hcontent h =>
      change IsLexical _ (text (c :: content) :: others.filterMap Piece.token?)
      rw [hts]
      exact .quoted (List.cons_ne_nil _ _) (hmem hcontent) h
    | @unclosed _ content _ hcontent =>
      change IsLexical _ (text (c :: content) :: others.filterMap Piece.token?)
      rw [hts]
      exact .unclosed (List.cons_ne_nil _ _) (hmem hcontent)

/-- One more character makes the word at the start of the tokens longer, or starts one. -/
theorem isLexical_consWord {pieces : List Piece} (hc : isWordChar c = true)
    (harrow : ∀ tail, c = '-' → pieces.flatMap Piece.chars = '-' :: '>' :: tail → False)
    (h : IsLexical none (pieces.filterMap Piece.token?)) :
    IsLexical none ((Piece.consWord c pieces).filterMap Piece.token?) := by
  unfold Piece.consWord
  split
  · rename_i name others
    change IsLexical none (identifier name :: others.filterMap Piece.token?) at h
    cases h with
    | mark hmark _ => exact absurd (ne_identifier_of_ofMark? hmark) (by simp [isWord])
    | word hname h =>
      refine .word (hname.cons hc fun tail hdash htail => ?_) h
      exact harrow (tail ++ others.flatMap Piece.chars) hdash (by simp [Piece.chars, chars, htail])
  · exact .word (.singleton hc) h

/-- The tokens of a text are those that a text can have. -/
theorem isLexical_pieces (mode : Option Char) (text : List Char) :
    IsLexical mode ((pieces mode text).filterMap Piece.token?) := by
  fun_induction pieces mode text with
  | case1 mode => exact .nil mode
  | case2 mark rest ih => exact .closing ih
  | case3 mark c rest hc ih =>
    refine isLexical_consText hc (fun b others hblank => ?_) ih
    -- Inside quoted text a blank is part of the text.
    cases rest with
    | nil => cases hblank
    | cons d rest =>
      rw [pieces_some] at hblank
      unfold Piece.consText at hblank
      split at hblank
      · cases hblank
      · split at hblank <;> cases hblank
  | case4 rest ih => exact .arrow ih
  | case5 c rest _ _ ih => exact ih
  | case6 c rest _ _ hquote ih => exact .opening hquote ih
  | case7 c rest _ _ _ mark hmark ih => exact .mark hmark ih
  | case8 c rest harrow hblank hquote hmark ih =>
    have hc : isWordChar c = true :=
      isWordChar_iff.2 ⟨eq_false_of_ne_true hblank, eq_false_of_ne_true hquote, hmark⟩
    refine isLexical_consWord hc (fun tail hdash htail => harrow tail hdash ?_) ih
    rw [← htail, pieces_flatMap_chars]

/-- Every token of a text has a character. -/
theorem IsLexical.chars_ne_nil (h : IsLexical mode ts) : ∀ t ∈ ts, t.chars ≠ [] := by
  induction h with
  | nil mode => exact fun _ ht => nomatch ht
  | word hname _ ih => exact List.forall_mem_cons.2 ⟨hname.ne_nil, ih⟩
  | mark hmark _ ih =>
    refine List.forall_mem_cons.2 ⟨?_, ih⟩
    rw [chars_ofMark? hmark]
    exact List.cons_ne_nil _ _
  | arrow _ ih | opening _ _ ih | closing _ ih =>
    exact List.forall_mem_cons.2 ⟨List.cons_ne_nil _ _, ih⟩
  | quoted hne _ _ ih =>
    exact List.forall_mem_cons.2 ⟨hne, List.forall_mem_cons.2 ⟨List.cons_ne_nil _ _, ih⟩⟩
  | unclosed hne _ => exact List.forall_mem_singleton.2 hne

theorem chars_ne_nil_of_mem_pieces {text : List Char} (h : .token t ∈ pieces mode text) :
    t.chars ≠ [] :=
  (isLexical_pieces mode text).chars_ne_nil t (List.mem_filterMap.2 ⟨_, h, rfl⟩)

/-! ### Tokens written down -/

/-- The texts that a word may stand directly before: they do not start with a character that would
make it longer, unless it is the first one of an arrow. -/
def EndsWord (tail : List Char) : Prop :=
  (∀ c ∈ tail.head?, isWordChar c = false) ∨ arrow.chars <+: tail

theorem endsWord_cons (h : isWordChar c = false) (rest : List Char) : EndsWord (c :: rest) :=
  .inl fun _ hd => Option.some.inj hd ▸ h

theorem EndsWord.ne_cons (h : EndsWord tail) : tail ≠ '-' :: '>' :: rest := by
  rintro rfl
  rcases h with h | ⟨_, h⟩
  · exact absurd (h '-' rfl) (by decide)
  · obtain ⟨-, h⟩ := List.cons.inj h
    obtain ⟨h, -⟩ := List.cons.inj h
    cases h

theorem consWord_pieces (h : EndsWord tail) :
    Piece.consWord c (pieces none tail) = .token (identifier [c]) :: pieces none tail := by
  rcases h with h | ⟨rest, rfl⟩
  · cases tail with
    | nil => rfl
    | cons d rest =>
      have hd : isWordChar d = false := h d rfl
      have hdash : d ≠ '-' := fun e => absurd (e ▸ hd) (by decide)
      rw [pieces_none fun tail e => absurd e hdash]
      -- A character that does not belong to words is a blank, a quote mark or another mark.
      split
      · rfl
      · rename_i hblank
        split
        · rfl
        · rename_i hquote
          cases hmark : ofMark? d with
          | some t =>
            have hword := ne_identifier_of_ofMark? hmark
            cases t <;> first | rfl | cases hword
          | none =>
            have hwordChar := isWordChar_iff.2
              ⟨eq_false_of_ne_true hblank, eq_false_of_ne_true hquote, hmark⟩
            exact absurd (hd.symm.trans hwordChar) Bool.false_ne_true
  · rfl

/-- A word before a text that ends it is read as a word. -/
theorem pieces_word_append (h : IsWord name) (htail : EndsWord tail) :
    pieces none (name ++ tail) = .token (identifier name) :: pieces none tail := by
  induction name with
  | nil => exact absurd rfl h.ne_nil
  | cons c name ih =>
    obtain ⟨hc, hname⟩ := List.forall_mem_cons.1 h.isWordChar_of_mem
    -- An arrow would have to be in the word, or to run over its end.
    have harrow : ∀ tail', c = '-' → name ++ tail = '-' :: '>' :: tail' → False := by
      rintro tail' rfl heq
      match name with
      | [] => exact htail.ne_cons heq
      | [d] =>
        obtain ⟨-, rfl⟩ := List.cons.inj heq
        rcases htail with htail | ⟨_, htail⟩
        · exact absurd (htail '>' rfl) (by decide)
        · cases htail
      | d :: e :: name =>
        obtain ⟨hd, heq⟩ := List.cons.inj heq
        obtain ⟨he, -⟩ := List.cons.inj heq
        exact h.no_arrow (List.IsPrefix.isInfix ⟨name, by rw [hd, he]; rfl⟩)
    rw [List.cons_append, pieces_wordChar hc harrow]
    match name with
    | [] => rw [List.nil_append, consWord_pieces htail]
    | d :: name =>
      have hrest : IsWord (d :: name) := ⟨List.cons_ne_nil _ _, hname, fun hsub =>
        h.no_arrow (hsub.trans (List.suffix_cons _ _).isInfix)⟩
      rw [ih hrest]
      rfl

theorem renderChars_cons (h : t.isWord = false) (ts : List Token) :
    renderChars (t :: ts) = t.chars ++ renderChars ts := by
  cases ts with
  | nil => rw [renderChars, renderChars, List.append_nil]
  | cons next ts =>
    rw [renderChars, gap, h, Bool.false_and, if_neg Bool.false_ne_true, List.append_nil]

theorem renderChars_identifier_cons (h : t.isWord = false) (name : List Char) (ts : List Token) :
    renderChars (identifier name :: t :: ts) = name ++ renderChars (t :: ts) := by
  rw [renderChars, gap, h, Bool.and_false, if_neg Bool.false_ne_true, List.append_nil]
  rfl

/-- Behind a word that is written down stands what ends it: the space before the next word, or a
token that is no word. -/
theorem exists_renderChars_identifier (h : IsLexical none ts) (name : List Char) :
    ∃ tail, renderChars (identifier name :: ts) = name ++ tail ∧ EndsWord tail ∧
      (pieces none tail).filterMap Piece.token? =
        (pieces none (renderChars ts)).filterMap Piece.token? := by
  -- Only a second word needs a space.
  have htoken {t : Token} {ts : List Token} (ht : t.isWord = false)
      (hends : EndsWord (t.chars ++ renderChars ts)) :
      ∃ tail, renderChars (identifier name :: t :: ts) = name ++ tail ∧ EndsWord tail ∧
        (pieces none tail).filterMap Piece.token? =
          (pieces none (renderChars (t :: ts))).filterMap Piece.token? :=
    ⟨_, renderChars_identifier_cons ht name ts, renderChars_cons ht ts ▸ hends, rfl⟩
  cases h with
  | nil => exact ⟨[], (List.append_nil _).symm, .inl fun _ hc => (nomatch hc), rfl⟩
  | @word next ts _ _ =>
    refine ⟨' ' :: renderChars (identifier next :: ts), ?_, endsWord_cons rfl _, rfl⟩
    rw [renderChars, List.append_assoc]
    rfl
  | mark hmark _ =>
    refine htoken (ne_identifier_of_ofMark? hmark) ?_
    rw [chars_ofMark? hmark]
    exact endsWord_cons (isWordChar_of_ofMark? hmark) _
  | arrow _ => exact htoken rfl (.inr (List.prefix_append _ _))
  | opening hquote _ => exact htoken rfl (endsWord_cons (by simp [isWordChar, hquote]) _)

/-- The tokens of a text, written down, are read as they were. -/
theorem tokens_renderChars (h : IsLexical mode ts) :
    (pieces mode (renderChars ts)).filterMap Piece.token? = ts := by
  induction h with
  | nil mode => cases mode <;> rfl
  | @word name ts hname hts ih =>
    -- A blank stands between two words only, so a word has to know how the rest starts.
    obtain ⟨tail, hrender, hends, htokens⟩ := exists_renderChars_identifier hts name
    rw [hrender, pieces_word_append hname hends, List.filterMap_cons, htokens, ih]
    rfl
  | @mark c t ts hmark _ ih =>
    rw [renderChars_cons (ne_identifier_of_ofMark? hmark), chars_ofMark? hmark]
    change (pieces none (c :: renderChars ts)).filterMap _ = _
    rw [pieces_mark hmark, List.filterMap_cons, ih]
    rfl
  | @arrow ts _ ih =>
    rw [renderChars_cons rfl]
    change arrow :: (pieces none (renderChars ts)).filterMap _ = _
    rw [ih]
  | @opening c ts hquote _ ih =>
    rw [renderChars_cons rfl]
    change (pieces none (c :: renderChars ts)).filterMap _ = _
    rw [pieces_quote hquote, List.filterMap_cons, ih]
    rfl
  | @closing c ts _ ih =>
    rw [renderChars_cons rfl]
    change (pieces (some c) (c :: renderChars ts)).filterMap _ = _
    rw [pieces_some, if_pos rfl, List.filterMap_cons, ih]
    rfl
  | @quoted c content ts hne hmem _ ih =>
    rw [renderChars_cons rfl, renderChars_cons rfl]
    change (pieces (some c) (content ++ c :: renderChars ts)).filterMap _ = _
    rw [pieces_quoted hne hmem, List.filterMap_cons, List.filterMap_cons, ih]
    rfl
  | @unclosed c content hne hmem =>
    rw [renderChars, chars, pieces_unclosed hne hmem]
    rfl

/-! ### Parts of lists of tokens -/

theorem IsLexical.exists_tail (h : IsLexical mode (t :: ts)) : ∃ mode', IsLexical mode' ts := by
  cases h with
  | quoted _ _ h => exact ⟨_, .closing h⟩
  | unclosed => exact ⟨none, .nil none⟩
  | word _ h | mark _ h | arrow h | opening _ h | closing h => exact ⟨_, h⟩

/-- Behind a parenthesis the text goes on outside quoted text. -/
theorem IsLexical.after_leftParen (h : IsLexical mode (ts ++ leftParen :: ts')) :
    IsLexical none ts' := by
  induction ts generalizing mode with
  | nil =>
    cases h with
    | mark _ h => exact h
  | cons first ts ih =>
    obtain ⟨mode', h'⟩ := h.exists_tail
    exact ih h'

theorem IsLexical.left (h : IsLexical mode (ts ++ ts')) : IsLexical mode ts := by
  induction ts generalizing mode with
  | nil => exact .nil mode
  | cons first ts ih =>
    generalize htokens : ts ++ ts' = tokens at ih h
    rw [List.cons_append, htokens] at h
    cases h with
    | word hname h => exact .word hname (ih h)
    | mark hmark h => exact .mark hmark (ih h)
    | arrow h => exact .arrow (ih h)
    | opening hquote h => exact .opening hquote (ih h)
    | closing h => exact .closing (ih h)
    | unclosed hne hmem =>
      obtain ⟨rfl, -⟩ := List.append_eq_nil_iff.1 htokens
      exact .unclosed hne hmem
    | quoted hne hmem h =>
      -- The text may be cut off before the mark that closes it.
      have hrest := ih (.closing h)
      cases ts with
      | nil => exact .unclosed hne hmem
      | cons second ts =>
        obtain ⟨rfl, -⟩ := List.cons.inj htokens
        cases hrest with
        | closing h => exact .quoted hne hmem h

/-- What stands between two parentheses might be a text of its own. -/
theorem IsLexical.between {before inner after : List Token}
    (h : IsLexical mode (before ++ leftParen :: (inner ++ rightParen :: after))) :
    IsLexical none inner :=
  h.after_leftParen.left

/-! ### Sources -/

/-- The tokens of a source, without their places. -/
def tokensOf (source : String) : List Token := (scan source).map Lexeme.token

theorem isLexical_scan (source : String) : IsLexical none (tokensOf source) := by
  unfold tokensOf
  rw [map_token_scan]
  exact isLexical_pieces none source.toList

theorem tokensOf_render (h : IsLexical none ts) : tokensOf (render ts) = ts := by
  rw [tokensOf, map_token_scan, render, String.toList_ofList, tokens_renderChars h]

end BoxArrow.Token
