import BoxArrow.Proofs.Text.Split
import BoxArrow.Token.Lexer

/-!
# Texts on lines of their own

A blank outside quoted text ends the token before it, so that the tokens of two texts with a gap of
blanks between them, such as a line break, are those of the one before those of the other. A text
whose last token is no part of quoted text ends outside quoted text.

## Main definitions

* `Text.modeAfter` — the quote mark that is open after a text

## Main results

* `Token.pieces_append_gap` — a gap outside quoted text separates tokens
* `Token.modeAfter_eq_none` — a text that does not end with quoted text ends outside of it
-/

namespace BoxArrow

namespace Text

/-- The quote mark that is open after a text, if `mode` is open before it. -/
def modeAfter : Option Char → List Char → Option Char
  | mode, [] => mode
  | some mark, c :: text => modeAfter (if c = mark then none else some mark) text
  | none, c :: text => modeAfter (if isQuote c then some c else none) text

end Text

namespace Piece

@[simp] theorem consWord_append_blank (c b : Char) (pieces pieces' : List Piece) :
    consWord c (pieces ++ .blank b :: pieces') = consWord c pieces ++ .blank b :: pieces' := by
  cases pieces with
  | nil => rfl
  | cons p pieces =>
    rw [List.cons_append]
    unfold consWord
    split <;> simp_all

@[simp] theorem consText_append_blank (c b : Char) (pieces pieces' : List Piece) :
    consText c (pieces ++ .blank b :: pieces') = consText c pieces ++ .blank b :: pieces' := by
  cases pieces with
  | nil => rfl
  | cons p pieces =>
    rw [List.cons_append]
    unfold consText
    split <;> simp_all

end Piece

namespace Token

open Text (isBlank IsBlanks modeAfter not_isQuote_of_isBlank)

theorem pieces_some (mark c : Char) (rest : List Char) :
    pieces (some mark) (c :: rest) =
      if c = mark then .token (quote mark) :: pieces none rest
      else Piece.consText c (pieces (some mark) rest) := rfl

theorem pieces_arrow (rest : List Char) :
    pieces none ('-' :: '-' :: '>' :: rest) = .token arrow :: pieces none rest := rfl

theorem pieces_none {c : Char} {rest : List Char}
    (h : ∀ tail, c = '-' → rest = '-' :: '>' :: tail → False) :
    pieces none (c :: rest) =
      if Text.isBlank c then .blank c :: pieces none rest
      else if Text.isQuote c then .token (quote c) :: pieces (some c) rest
      else
        match ofMark? c with
        | some mark => .token mark :: pieces none rest
        | none => Piece.consWord c (pieces none rest) := by
  rw [pieces.eq_def]
  split
  · contradiction
  · contradiction
  · rename_i he
    obtain ⟨hc, htail⟩ := List.cons.inj he
    exact (h _ hc htail).elim
  · rename_i he
    obtain ⟨rfl, rfl⟩ := List.cons.inj he
    rfl

theorem pieces_blank {c : Char} (h : isBlank c = true) (rest : List Char) :
    pieces none (c :: rest) = .blank c :: pieces none rest := by
  rw [pieces_none, if_pos h]
  -- The character that an arrow starts with is no blank.
  rintro tail rfl
  cases h

theorem pieces_blanks_append {blanks : List Char} (h : IsBlanks blanks) (rest : List Char) :
    pieces none (blanks ++ rest) = blanks.map Piece.blank ++ pieces none rest := by
  induction blanks with
  | nil => rfl
  | cons c blanks ih =>
    obtain ⟨hc, hblanks⟩ := List.forall_mem_cons.1 h
    rw [List.cons_append, pieces_blank hc, ih hblanks]
    rfl

theorem filterMap_token?_blanks (blanks : List Char) :
    (blanks.map Piece.blank).filterMap Piece.token? = [] := by
  simp [List.filterMap_eq_nil_iff, Piece.token?]

/-- No arrow runs over a blank. -/
theorem not_arrow_append_blank {b c : Char} {rest back : List Char} (hb : isBlank b = true)
    (h : ∀ tail, c = '-' → rest = '-' :: '>' :: tail → False) :
    ∀ tail, c = '-' → rest ++ b :: back = '-' :: '>' :: tail → False := by
  intro tail hc heq
  match rest with
  | [] =>
    obtain ⟨rfl, -⟩ := List.cons.inj heq
    cases hb
  | [d] =>
    obtain ⟨-, heq⟩ := List.cons.inj heq
    obtain ⟨rfl, -⟩ := List.cons.inj heq
    cases hb
  | d :: e :: rest =>
    obtain ⟨hd, heq⟩ := List.cons.inj heq
    obtain ⟨he, -⟩ := List.cons.inj heq
    exact h rest hc (by rw [hd, he])

/-- No token runs over a blank outside quoted text. -/
theorem pieces_append_blank {mode : Option Char} {front : List Char} {b : Char}
    (hb : isBlank b = true) (back : List Char) (h : modeAfter mode front = none) :
    pieces mode (front ++ b :: back) = pieces mode front ++ .blank b :: pieces none back := by
  fun_induction pieces mode front with
  | case1 mode =>
    cases mode with
    | none => exact pieces_blank hb back
    -- A text that ends inside quoted text is no front.
    | some mark => cases h
  | case2 mark rest ih =>
    rw [modeAfter, if_pos rfl] at h
    rw [List.cons_append, pieces_some, if_pos rfl, ih h]
    rfl
  | case3 mark c rest hc ih =>
    rw [modeAfter, if_neg hc] at h
    rw [List.cons_append, pieces_some, if_neg hc, ih h, Piece.consText_append_blank]
  | case4 rest ih =>
    change pieces none ('-' :: '-' :: '>' :: (rest ++ b :: back)) = _
    rw [pieces_arrow, ih h]
    rfl
  | case5 c rest harrow hblank ih =>
    rw [modeAfter, if_neg (not_isQuote_of_isBlank hblank)] at h
    rw [List.cons_append, pieces_blank hblank, ih h]
    rfl
  | case6 c rest harrow hblank hquote ih =>
    rw [modeAfter, if_pos hquote] at h
    rw [List.cons_append, pieces_none (not_arrow_append_blank hb harrow), if_neg hblank,
      if_pos hquote, ih h]
    rfl
  | case7 c rest harrow hblank hquote mark hmark ih =>
    rw [modeAfter, if_neg hquote] at h
    rw [List.cons_append, pieces_none (not_arrow_append_blank hb harrow), if_neg hblank,
      if_neg hquote, hmark, ih h]
    rfl
  | case8 c rest harrow hblank hquote hmark ih =>
    rw [modeAfter, if_neg hquote] at h
    rw [List.cons_append, pieces_none (not_arrow_append_blank hb harrow), if_neg hblank,
      if_neg hquote, hmark, ih h]
    exact Piece.consWord_append_blank ..

/-- The blanks of a gap outside quoted text stand alone, and no token runs over them. -/
theorem pieces_append_gap {mode : Option Char} {front gap : List Char} (hgap : IsBlanks gap)
    (hne : gap ≠ []) (back : List Char) (h : modeAfter mode front = none) :
    pieces mode (front ++ gap ++ back) =
      pieces mode front ++ gap.map Piece.blank ++ pieces none back := by
  obtain ⟨b, gap, rfl⟩ := List.exists_cons_of_ne_nil hne
  obtain ⟨hb, hgap⟩ := List.forall_mem_cons.1 hgap
  rw [List.append_assoc, List.cons_append, pieces_append_blank hb _ h, pieces_blanks_append hgap,
    List.append_assoc]
  rfl

theorem isBlanks_newline : IsBlanks "\n".toList := List.forall_mem_singleton.2 rfl

/-- Whether a token is part of quoted text, its marks included. -/
def isQuoted : Token → Bool
  | quote _ | text _ => true
  | _ => false

/-- Whether the last token is part of quoted text, `otherwise` if there is no token. -/
def endsQuoted (otherwise : Bool) (ts : List Token) : Bool :=
  ts.foldl (fun _ t => t.isQuoted) otherwise

@[simp] theorem endsQuoted_cons (b : Bool) (t : Token) (ts : List Token) :
    endsQuoted b (t :: ts) = endsQuoted t.isQuoted ts := rfl

@[simp] theorem endsQuoted_append (b : Bool) (ts ts' : List Token) :
    endsQuoted b (ts ++ ts') = endsQuoted (endsQuoted b ts) ts' :=
  List.foldl_append

theorem endsQuoted_true {ts : List Token} (h : endsQuoted false ts = true) :
    endsQuoted true ts = true := by
  cases ts with
  | nil => rfl
  | cons t ts => exact h

@[simp] theorem endsQuoted_consWord (b : Bool) (c : Char) (pieces : List Piece) :
    endsQuoted b ((Piece.consWord c pieces).filterMap Piece.token?) =
      endsQuoted false (pieces.filterMap Piece.token?) := by
  unfold Piece.consWord
  split <;> rfl

@[simp] theorem endsQuoted_consText (b : Bool) (c : Char) (pieces : List Piece) :
    endsQuoted b ((Piece.consText c pieces).filterMap Piece.token?) =
      endsQuoted true (pieces.filterMap Piece.token?) := by
  unfold Piece.consText
  split <;> rfl

theorem isQuoted_ofMark? {c : Char} {t : Token} (h : ofMark? c = some t) :
    t.isQuoted = false := by
  unfold ofMark? at h
  split at h <;> first | (cases h; rfl) | exact absurd h (by simp)

/-- A text that ends inside quoted text has a token of quoted text last, unless it starts there
and has no token at all. -/
theorem endsQuoted_of_modeAfter {mode : Option Char} {source : List Char}
    (h : (modeAfter mode source).isSome) :
    endsQuoted mode.isSome ((pieces mode source).filterMap Piece.token?) = true := by
  fun_induction pieces mode source with
  | case1 mode => exact h
  | case2 mark rest ih =>
    -- The mark that closes quoted text is a token of it, but one that may be followed by others.
    rw [modeAfter, if_pos rfl] at h
    change endsQuoted true ((pieces none rest).filterMap Piece.token?) = true
    exact endsQuoted_true (ih h)
  | case3 mark c rest hc ih =>
    rw [modeAfter, if_neg hc] at h
    rw [endsQuoted_consText]
    exact ih h
  | case4 rest ih => exact ih h
  | case5 c rest harrow hblank ih =>
    rw [modeAfter, if_neg (not_isQuote_of_isBlank hblank)] at h
    exact ih h
  | case6 c rest harrow hblank hquote ih =>
    rw [modeAfter, if_pos hquote] at h
    exact ih h
  | case7 c rest harrow hblank hquote mark hmark ih =>
    rw [modeAfter, if_neg hquote] at h
    change endsQuoted mark.isQuoted _ = true
    rw [isQuoted_ofMark? hmark]
    exact ih h
  | case8 c rest harrow hblank hquote hmark ih =>
    rw [modeAfter, if_neg hquote] at h
    rw [endsQuoted_consWord]
    exact ih h

theorem map_token_scan (source : String) :
    (scan source).map Lexeme.token = (pieces none source.toList).filterMap Piece.token? :=
  map_token_locate 0 _

/-- A quote mark left open shows in the last token. -/
theorem modeAfter_eq_none {source : String}
    (h : endsQuoted false ((scan source).map Lexeme.token) = false) :
    modeAfter none source.toList = none := by
  rw [map_token_scan] at h
  cases hopen : modeAfter none source.toList with
  | none => rfl
  | some mark =>
    have hends := endsQuoted_of_modeAfter (hopen ▸ rfl : (modeAfter none source.toList).isSome)
    exact absurd (h.symm.trans hends) Bool.false_ne_true

/-- The tokens of two sources on lines of their own, if the first ends outside quoted text. -/
theorem map_token_scan_append {front back : String}
    (h : endsQuoted false ((scan front).map Lexeme.token) = false) :
    (scan (front ++ "\n" ++ back)).map Lexeme.token =
      (scan front).map Lexeme.token ++ (scan back).map Lexeme.token := by
  rw [map_token_scan, map_token_scan, map_token_scan, String.toList_append, String.toList_append,
    pieces_append_gap isBlanks_newline (by decide) back.toList (modeAfter_eq_none h),
    List.filterMap_append, List.filterMap_append, filterMap_token?_blanks, List.append_nil]

end Token

end BoxArrow
