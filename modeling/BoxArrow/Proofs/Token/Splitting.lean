import BoxArrow.Proofs.Token.Lossless
import BoxArrow.Proofs.Token.Places

/-!
# How a source is split into tokens

The lexemes of a source are exactly the tokens that stand in it. Reading the source in rounds, each
round starts outside quoted text and where no word goes on, so that what the round takes stands
there. The other way round, a token that stands somewhere has a first character, which is in some
piece; no other token and no blank can stand there, so the token is that piece.

## Main definitions

* `Lexeme.StandsIn` — the token of a lexeme stands at its span in a source
* `Token.CutsAt` — a text that is cut afresh behind another one

## Main results

* `Token.allStand_pieces` — the pieces of a text stand where they are written
* `Token.exists_piece_of_standsAt` — a token that stands in a text is among its pieces
* `Token.scan_splits` — the lexemes of a source are the tokens that stand in it, from the left
-/

namespace BoxArrow

open Text (isBlank isQuote EndsOutside EndsInside)

/-- The token of a lexeme stands at its span in a source. -/
def Lexeme.StandsIn (l : Lexeme) (source : String) : Prop :=
  ∃ before after, source = before ++ l.token.display ++ after ∧
    l.span = ⟨before.utf8ByteSize, before.utf8ByteSize + l.token.display.utf8ByteSize⟩ ∧
    l.token.StandsAt before.toList after.toList

namespace Piece

/-- A token stands between two texts, or a blank stands behind a text that ends outside quoted
text. -/
def StandsAt (before : List Char) : Piece → List Char → Prop
  | blank _, _ => EndsOutside before
  | token t, after => t.StandsAt before after

/-- Pieces that stand one behind the other between two texts. -/
def AllStand : List Char → List Piece → List Char → Prop
  | _, [], _ => True
  | before, p :: pieces, after =>
    p.StandsAt before (pieces.flatMap chars ++ after) ∧ AllStand (before ++ p.chars) pieces after

theorem allStand_append {before after : List Char} {front back : List Piece} :
    AllStand before (front ++ back) after ↔
      AllStand before front (back.flatMap chars ++ after) ∧
        AllStand (before ++ front.flatMap chars) back after := by
  induction front generalizing before with
  | nil => simp [AllStand]
  | cons p front ih => simp [AllStand, ih, and_assoc]

end Piece

namespace Token

variable {before after front back text rest name behind content : List Char} {c d mark : Char}
  {t : Token} {ts : List Token}

/-! ### Where a word ends -/

/-- No word goes on behind the text, nor does an arrow. -/
def IsClosed (before : List Char) : Prop :=
  ∀ front c, before = front ++ [c] → c ≠ '-' ∧ ∀ after, ¬ IsInWord front c after

/-- A text that is cut afresh behind another one, which ends outside quoted text. -/
structure CutsAt (before text : List Char) : Prop where
  endsOutside : EndsOutside before
  isClosed : EndsWord text ∨ IsClosed before

theorem isClosed_nil : IsClosed [] := fun _ _ h => absurd h (by simp)

theorem isClosed_concat (front : List Char) (h : isWordChar c = false) :
    IsClosed (front ++ [c]) := by
  intro front' c' heq
  obtain ⟨-, hc⟩ := List.append_inj' heq rfl
  cases hc
  refine ⟨?_, fun after hword => ?_⟩
  · rintro rfl
    cases h
  · exact absurd hword.isWordChar (by simp [h])

theorem isClosed_arrow (before : List Char) : IsClosed (before ++ arrow.chars) := by
  intro front c heq
  rw [chars, List.append_cons, List.append_cons] at heq
  obtain ⟨rfl, hc⟩ := List.append_inj' heq rfl
  cases hc
  refine ⟨by decide, fun after hword => hword.not_isInArrow ?_⟩
  exact ⟨['-', '-'], [], rfl, ⟨before, by simp⟩, List.nil_prefix⟩

theorem EndsWord.not_isInWord (h : EndsWord (c :: rest)) : ¬ IsInWord before c rest := by
  intro hword
  rcases h with h | ⟨tail, htail⟩
  · exact absurd hword.isWordChar (by simp [h c rfl])
  · obtain ⟨rfl, rfl⟩ := List.cons.inj htail
    exact hword.not_isInArrow (isInArrow_start before tail)

/-- Only the last character of an arrow is no hyphen. -/
theorem eq_hyphen_of_arrow {left right : List Char} (h : arrow.chars = left ++ d :: c :: right) :
    d = '-' := by
  match left with
  | [] => exact (List.cons.inj h).1.symm
  | [e] => exact (List.cons.inj (List.cons.inj h).2).1.symm
  | e :: f :: left =>
    have hlength := congrArg List.length h
    simp [chars] at hlength
    omega

/-- An arrow over a character starts with it, or stands over the hyphen before it, too. -/
theorem IsInArrow.start_or (h : IsInArrow before c after) :
    (c = '-' ∧ ∃ tail, after = '-' :: '>' :: tail) ∨
      ∃ front, before = front ++ ['-'] ∧ IsInArrow front '-' (c :: after) := by
  obtain ⟨left, right, hchars, ⟨front, rfl⟩, ⟨tail, rfl⟩⟩ := h
  rcases List.eq_nil_or_concat left with rfl | ⟨left, d, rfl⟩
  · obtain ⟨rfl, rfl⟩ := List.cons.inj hchars
    exact .inl ⟨rfl, tail, rfl⟩
  · rw [List.concat_eq_append, List.append_assoc] at hchars
    obtain rfl := eq_hyphen_of_arrow hchars
    refine .inr ⟨front ++ left, by simp, left, c :: right, hchars, ?_, tail, rfl⟩
    exact List.suffix_append front left

/-! ### Words -/

/-- No arrow stands over a character of a word that goes on over all its characters. -/
theorem not_isInArrow_of_goesOn (hclosed : IsClosed before) {left right : List Char}
    (hgoes : ∀ left c right, name = left ++ c :: right → goesOn c (right ++ behind) = true)
    (hname : name = left ++ c :: right) :
    ¬ IsInArrow (before ++ left) c (right ++ behind) := by
  -- From the right: the arrow would start before the word, where no hyphen is.
  induction left using List.reverseRecOn generalizing c right with
  | nil =>
    intro harrow
    rcases harrow.start_or with ⟨hc, tail, htail⟩ | ⟨front, hfront, -⟩
    · exact not_arrow_of_goesOn (hgoes _ c right hname) tail hc htail
    · rw [List.append_nil] at hfront
      exact (hclosed front '-' hfront).1 rfl
  | append_singleton left d ih =>
    intro harrow
    rcases harrow.start_or with ⟨hc, tail, htail⟩ | ⟨front, hfront, hstart⟩
    · exact not_arrow_of_goesOn (hgoes _ c right hname) tail hc htail
    · rw [← List.append_assoc] at hfront
      obtain ⟨rfl, hd⟩ := List.append_inj' hfront rfl
      cases hd
      rw [List.append_assoc] at hname
      exact ih hname hstart

theorem isQuote_of_mem_takeWord (h : c ∈ (takeWord text).1) : isQuote c = false := by
  have hword := isWord_takeWord (List.ne_nil_of_mem h)
  exact (isWordChar_iff.1 (hword.isWordChar_of_mem c h)).2.1

/-- The word that the rule takes is a run, if it does not go on a word before it. -/
theorem isRun_takeWord (houtside : EndsOutside before) (hclosed : IsClosed before)
    (htake : takeWord text = (name, behind)) (hne : name ≠ []) : IsRun before name behind := by
  obtain ⟨rfl, rfl⟩ := Prod.mk.inj htake
  have hgoes {left : List Char} {c : Char} {right : List Char}
      (h : (takeWord text).1 = left ++ c :: right) := goesOn_of_takeWord h
  refine ⟨hne, fun left c right hname => ⟨?_, ?_, ?_⟩, ?_, ?_⟩
  · refine houtside.append fun d hd => ?_
    have hmem : d ∈ (takeWord text).1 := by simp [hname, hd]
    exact isQuote_of_mem_takeWord hmem
  · exact isWordChar_of_goesOn (hgoes hname)
  · exact not_isInArrow_of_goesOn hclosed (fun _ _ _ => hgoes) hname
  · exact fun front c hfront => (hclosed front c hfront).2 _
  · intro c back hback
    have hends := endsWord_takeWord text
    rw [hback] at hends
    exact hends.not_isInWord

/-- A word that the rule takes where a text is cut afresh does not go on a word before it. -/
theorem CutsAt.isClosed_of_takeWord (h : CutsAt before text) (hne : (takeWord text).1 ≠ []) :
    IsClosed before := by
  refine h.isClosed.resolve_left fun hends => ?_
  cases text with
  | nil => exact hne rfl
  | cons c rest =>
    rw [takeWord] at hne
    split at hne
    · rename_i hgoes
      rcases hends with hends | ⟨tail, htail⟩
      · exact absurd (isWordChar_of_goesOn hgoes) (by simp [hends c rfl])
      · obtain ⟨rfl, rfl⟩ := List.cons.inj htail
        exact not_arrow_of_goesOn hgoes tail rfl rfl
    · exact hne rfl

/-! ### Rounds -/

/-- What a round takes stands where the round starts. The text behind it is cut afresh, if there is
any. -/
def RoundStands (before : List Char) (pieces : List Piece) (behind : List Char) : Prop :=
  Piece.AllStand before pieces behind ∧
    (behind = [] ∨ CutsAt (before ++ pieces.flatMap Piece.chars) behind)

theorem roundStands_blanks {blanks : List Char} (h : EndsOutside before) (hne : blanks ≠ [])
    (hblanks : Text.IsBlanks blanks) (behind : List Char) :
    RoundStands before (blanks.map Piece.blank) behind := by
  have hplain : ∀ c ∈ blanks, isQuote c = false := fun c hc =>
    eq_false_of_ne_true (Text.not_isQuote_of_isBlank (hblanks c hc))
  have hchars : (blanks.map Piece.blank).flatMap Piece.chars = blanks := by
    rw [List.flatMap_map]
    exact List.flatMap_singleton' blanks
  rw [RoundStands, hchars]
  refine ⟨?_, .inr ⟨h.append hplain, .inr ?_⟩⟩
  · clear hchars hne
    induction blanks generalizing before with
    | nil => trivial
    | cons c blanks ih =>
      obtain ⟨hc, hblanks⟩ := List.forall_mem_cons.1 hblanks
      obtain ⟨hplain, hplains⟩ := List.forall_mem_cons.1 hplain
      exact ⟨h, ih (h.plain hplain) hblanks hplains⟩
  · obtain ⟨front, c, rfl⟩ := (List.eq_nil_or_concat blanks).resolve_left hne
    rw [List.concat_eq_append, ← List.append_assoc]
    exact isClosed_concat _ (by simp [isWordChar, hblanks c (by simp)])

theorem flatMap_chars_contentOf (content : List Char) :
    ((contentOf content).map Piece.token).flatMap Piece.chars = content := by
  unfold contentOf
  split
  · rename_i hnil
    rw [hnil]
    rfl
  · exact List.append_nil content

theorem allStand_contentOf (h : EndsInside mark [] before) (hmem : mark ∉ content)
    (hhead : ∀ c ∈ after.head?, c = mark) :
    Piece.AllStand before ((contentOf content).map Piece.token) after := by
  unfold contentOf
  split
  · trivial
  · rename_i hne
    exact ⟨.content h hne hmem hhead, trivial⟩

theorem roundStands_quoted (h : EndsOutside before) (hquoted : quoted? text = some (ts, behind)) :
    RoundStands before (ts.map Piece.token) behind := by
  obtain ⟨mark, content, hmark, hmem, htokens⟩ := exists_of_quoted? hquoted
  have hopened : EndsInside mark [] (before ++ [mark]) := .opened h hmark List.not_mem_nil
  rcases htokens with ⟨-, rfl, rfl⟩ | ⟨-, rfl⟩
  · exact ⟨⟨.opening h hmark, allStand_contentOf hopened hmem (fun _ hc => nomatch hc)⟩, .inl rfl⟩
  · rw [List.map_cons, List.map_append]
    refine ⟨⟨.opening h hmark, Piece.allStand_append.2 ⟨?_, ?_, trivial⟩⟩, .inr ?_⟩
    · exact allStand_contentOf hopened hmem fun _ hc => (Option.some.inj hc).symm
    · rw [flatMap_chars_contentOf]
      exact StandsAt.closing (hopened.append hmem)
    · rw [List.flatMap_cons, List.flatMap_append, flatMap_chars_contentOf]
      change CutsAt (before ++ mark :: (content ++ [mark])) behind
      refine ⟨.segment h hmark hmem, .inr ?_⟩
      rw [← List.cons_append, ← List.append_assoc]
      exact isClosed_concat _ (isWordChar_of_isQuote hmark)

theorem roundStands_single (h : CutsAt before text) (hsingle : single? text = some (t, behind)) :
    RoundStands before [.token t] behind := by
  rw [RoundStands, List.flatMap_singleton]
  change (t.StandsAt before _ ∧ _) ∧ _
  rcases exists_of_single? hsingle with ⟨rfl, rfl⟩ | ⟨c, hmark, rfl⟩ | ⟨name, rfl, hne, htake⟩
  · exact ⟨⟨.arrow h.endsOutside, trivial⟩,
      .inr ⟨h.endsOutside.append fun _ => isQuote_of_mem_arrow, .inr (isClosed_arrow before)⟩⟩
  · refine ⟨⟨.mark h.endsOutside (ofMark?_eq_some_iff.1 hmark), trivial⟩, .inr ?_⟩
    change CutsAt (before ++ t.chars) behind
    rw [chars_ofMark? hmark]
    exact ⟨h.endsOutside.plain (isQuote_of_ofMark? hmark),
      .inr (isClosed_concat before (isWordChar_of_ofMark? hmark))⟩
  · have hclosed := h.isClosed_of_takeWord (by rwa [htake])
    refine ⟨⟨.word (isRun_takeWord h.endsOutside hclosed htake hne), trivial⟩, .inr ⟨?_, .inl ?_⟩⟩
    · exact h.endsOutside.append fun c hc => isQuote_of_mem_takeWord (by rwa [htake])
    · obtain ⟨-, rfl⟩ := Prod.mk.inj htake
      exact endsWord_takeWord text

theorem roundStands_round (h : CutsAt before (c :: rest)) :
    RoundStands before (round c rest).1.pieces (round c rest).2 := by
  rcases round_cases c rest with ⟨blanks, behind, hround, hne, hblanks, -⟩ |
    ⟨ts, behind, hround, hquoted⟩ | ⟨t, behind, hround, hsingle⟩
  · rw [hround]
    exact roundStands_blanks h.endsOutside hne hblanks behind
  · rw [hround]
    exact roundStands_quoted h.endsOutside hquoted
  · rw [hround]
    exact roundStands_single h hsingle

/-- The pieces of a text that is cut afresh stand where they are written. -/
theorem allStand_pieces (h : CutsAt before text) : Piece.AllStand before (pieces none text) [] := by
  fun_induction rounds text generalizing before with
  | case1 => trivial
  | case2 c rest ih =>
    obtain ⟨hstands, hcuts⟩ := roundStands_round h
    rw [pieces_round, Piece.allStand_append, List.append_nil, pieces_flatMap_chars]
    refine ⟨hstands, ?_⟩
    rcases hcuts with hnil | hcuts
    · rw [hnil, pieces_nil]
      trivial
    · exact ih hcuts

theorem cutsAt_nil (text : List Char) : CutsAt [] text := ⟨.nil, .inr isClosed_nil⟩

/-- Each piece of a text stands between those before and behind it. -/
theorem standsAt_of_pieces {front back : List Piece} {p : Piece}
    (h : pieces none text = front ++ p :: back) :
    p.StandsAt (front.flatMap Piece.chars) (back.flatMap Piece.chars) := by
  have hstands := allStand_pieces (cutsAt_nil text)
  rw [h, Piece.allStand_append] at hstands
  have hp := hstands.2.1
  rwa [List.append_nil, List.nil_append] at hp

/-- A token that stands in a text is among its pieces. -/
theorem exists_piece_of_standsAt (h : t.StandsAt before after)
    (htext : text = before ++ (t.chars ++ after)) :
    ∃ front back, pieces none text = front ++ .token t :: back ∧
      front.flatMap Piece.chars = before := by
  obtain ⟨d, tail, hd⟩ := List.exists_cons_of_ne_nil h.chars_ne_nil
  have hcut : (pieces none text).flatMap Piece.chars = before ++ d :: (tail ++ after) := by
    rw [pieces_flatMap_chars, htext, hd]
    rfl
  obtain ⟨front, p, back, left, right, hpieces, hp, rfl, hright⟩ := exists_piece_at hcut
  have hfirst : t.chars ++ after = d :: (right ++ back.flatMap Piece.chars) := by
    rw [hd, List.cons_append, hright]
  have hstands := standsAt_of_pieces hpieces
  cases p with
  | blank b =>
    -- No token starts with a blank outside quoted text.
    obtain ⟨rfl, rfl⟩ := eq_nil_of_singleton hp
    have hmem : .blank b ∈ pieces none text := by simp [hpieces]
    have hblank := isBlank_of_mem_pieces hmem
    rw [List.append_nil] at h
    exact absurd hblank (by simp [h.not_isBlank hfirst hstands])
  | token t' =>
    obtain ⟨rfl, rfl⟩ := h.unique hstands hp hfirst
    exact ⟨front, back, hpieces, (List.append_nil _).symm⟩

/-! ### Sources -/

theorem mem_scan_iff_standsIn (source : String) (l : Lexeme) :
    l ∈ scan source ↔ l.StandsIn source := by
  rw [mem_scan_iff]
  constructor
  · rintro ⟨front, back, hpieces, hspan⟩
    refine ⟨_, _, eq_append_of_pieces hpieces, ?_, ?_⟩
    · rw [hspan, display, Text.utf8ByteSize_ofList, Text.utf8ByteSize_ofList]
    · rw [String.toList_ofList, String.toList_ofList]
      exact standsAt_of_pieces hpieces
  · rintro ⟨before, after, hsource, hspan, hstands⟩
    have htext : source.toList = before.toList ++ (l.token.chars ++ after.toList) := by
      rw [hsource, String.toList_append, String.toList_append, display, String.toList_ofList,
        List.append_assoc]
    obtain ⟨front, back, hpieces, hfront⟩ := exists_piece_of_standsAt hstands htext
    refine ⟨front, back, hpieces, ?_⟩
    rw [hspan, hfront, Text.byteLength_toList, display, Text.utf8ByteSize_ofList]

/-- The lexemes of a source are, from the left, the tokens that stand in it. No arrow is in a
word. -/
theorem scan_splits (source : String) :
    (scan source).Pairwise (fun l l' => l.span.start < l'.span.start) ∧
    (∀ l, l ∈ scan source ↔ l.StandsIn source) ∧
    ∀ name span, ⟨identifier name, span⟩ ∈ scan source → ¬ arrow.chars <:+: name := by
  refine ⟨?_, mem_scan_iff_standsIn source, ?_⟩
  · exact (takeApart_scan source).pairwise.imp fun h => h.1
  · intro name span hmem
    obtain ⟨before, after, -, -, hstands⟩ := (mem_scan_iff_standsIn source _).1 hmem
    exact hstands.isRun.not_arrow_infix

end Token

end BoxArrow
