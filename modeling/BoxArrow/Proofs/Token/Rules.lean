import BoxArrow.Proofs.Token.Slice

/-!
# Cutting a text rule by rule

A text is cut character by character, and each character is put before the pieces of those behind
it. Another way to say what the pieces are is to read the text from the left in rounds. A round
takes all the blanks at the start of the text, or a whole segment of quoted text, or else a single
token: an arrow, a mark, or the longest word. A character that no rule takes would have to be folded
into a word of its own, but there is no such character: the rules take every text apart.

## Main definitions

* `Token.quoted?`, `Token.single?` — the rules for segments of quoted text and for single tokens
* `Token.Round` — what one round takes from the start of a text
* `Token.rounds` — the rounds that read a text

## Main results

* `Token.exists_taken` — a rule takes something from every text that does not start with a blank
* `Token.not_folded_of_mem_rounds` — no round folds a character
* `Token.pieces_eq_flatMap_rounds` — the rounds of a text give its pieces
-/

namespace BoxArrow.Token

open Text (isBlank isQuote IsBlanks)

variable {c : Char} {t : Token} {ts : List Token} {text rest behind : List Char}

/-! ### The rules -/

/-- Whether a word that has come to the character `c` goes on over it. A hyphen belongs to the word
unless `->` stands behind it. -/
def goesOn (c : Char) (rest : List Char) : Bool :=
  if c = '-' then !List.isPrefixOf ['-', '>'] rest else isWordChar c

/-- The characters at the start of a text that a word goes on over, and the text behind them. -/
def takeWord : List Char → List Char × List Char
  | [] => ([], [])
  | c :: rest =>
    if goesOn c rest then (c :: (takeWord rest).1, (takeWord rest).2) else ([], c :: rest)

/-- An arrow at the start of a text, and the text behind it. -/
def arrow? : List Char → Option (Token × List Char)
  | '-' :: '-' :: '>' :: rest => some (arrow, rest)
  | _ => none

/-- A structural mark at the start of a text, and the text behind it. -/
def mark? : List Char → Option (Token × List Char)
  | [] => none
  | c :: rest => (ofMark? c).map (·, rest)

/-- A word at the start of a text, and the text behind it. -/
def word? (text : List Char) : Option (Token × List Char) :=
  if (takeWord text).1 = [] then none
  else some (identifier (takeWord text).1, (takeWord text).2)

/-- A single token at the start of a text, and the text behind it. An arrow is tried before a word,
which might start with a hyphen too. -/
def single? (text : List Char) : Option (Token × List Char) :=
  (arrow? text).or ((mark? text).or (word? text))

/-- The token of the text between two quote marks, if there is any text. -/
def contentOf (content : List Char) : List Token :=
  if content = [] then [] else [Token.text content]

/-- A segment of quoted text at the start of a text, and the text behind it. The segment closes at
the next mark of the same kind, or runs to the end of the text. -/
def quoted? : List Char → Option (List Token × List Char)
  | [] => none
  | c :: rest =>
    if isQuote c then
      let opened := quote c :: contentOf (rest.takeWhile (· ≠ c))
      match rest.dropWhile (· ≠ c) with
      | [] => some (opened, [])
      | _ :: behind => some (opened ++ [quote c], behind)
    else none

/-! ### What the rules take -/

theorem takeWord_append (text : List Char) : (takeWord text).1 ++ (takeWord text).2 = text := by
  fun_induction takeWord text with
  | case1 => rfl
  | case2 c rest _ ih => rw [List.cons_append, ih]
  | case3 => rfl

theorem isWordChar_of_goesOn (h : goesOn c rest = true) : isWordChar c = true := by
  unfold goesOn at h
  split at h
  · rename_i hdash
    rw [hdash]
    decide
  · exact h

theorem not_arrow_of_goesOn (h : goesOn c rest = true) :
    ∀ tail, c = '-' → rest = '-' :: '>' :: tail → False := by
  rintro tail rfl rfl
  simp [goesOn] at h

/-- A word goes on over its last character and not over the next one. -/
theorem endsWord_of_not_goesOn (h : goesOn c rest = false) : EndsWord (c :: rest) := by
  unfold goesOn at h
  split at h
  · rename_i hdash
    rw [Bool.not_eq_false', List.isPrefixOf_iff_prefix] at h
    rw [hdash]
    exact .inr (List.cons_prefix_cons.2 ⟨rfl, h⟩)
  · exact endsWord_cons h rest

theorem endsWord_takeWord (text : List Char) : EndsWord (takeWord text).2 := by
  fun_induction takeWord text with
  | case1 => exact .inl fun _ hc => nomatch hc
  | case2 _ _ _ ih => exact ih
  | case3 c rest h => exact endsWord_of_not_goesOn (eq_false_of_ne_true h)

theorem isWord_takeWord (h : (takeWord text).1 ≠ []) : IsWord (takeWord text).1 := by
  fun_induction takeWord text with
  | case1 => exact absurd rfl h
  | case2 c rest hc ih =>
    have hchar := isWordChar_of_goesOn hc
    by_cases hrest : (takeWord rest).1 = []
    · rw [hrest]
      exact .singleton hchar
    · refine (ih hrest).cons hchar fun tail hdash htail => ?_
      -- What the word goes on with is what the text goes on with.
      apply not_arrow_of_goesOn hc (tail ++ (takeWord rest).2) hdash
      conv_lhs => rw [← takeWord_append rest, htail]
      rfl
  | case3 => exact absurd rfl h

/-- A word goes on over each of its characters. -/
theorem goesOn_of_takeWord {left right : List Char} (h : (takeWord text).1 = left ++ c :: right) :
    goesOn c (right ++ (takeWord text).2) = true := by
  fun_induction takeWord text generalizing left with
  | case1 => exact absurd h.symm (by simp)
  | case2 d rest hd ih =>
    cases left with
    | nil =>
      obtain ⟨rfl, rfl⟩ := List.cons.inj h
      rwa [takeWord_append]
    | cons e left => exact ih (List.cons.inj h).2
  | case3 => exact absurd h.symm (by simp)

/-- What a token that a rule takes can be. -/
theorem exists_of_single? (h : single? text = some (t, behind)) :
    (t = arrow ∧ text = arrow.chars ++ behind) ∨
    (∃ c, ofMark? c = some t ∧ text = c :: behind) ∨
    ∃ name, t = identifier name ∧ name ≠ [] ∧ takeWord text = (name, behind) := by
  rcases Option.or_eq_some_iff.1 h with h | ⟨-, h⟩
  · unfold arrow? at h
    split at h <;> cases h
    exact .inl ⟨rfl, rfl⟩
  · rcases Option.or_eq_some_iff.1 h with h | ⟨-, h⟩
    · cases text with
      | nil => cases h
      | cons c rest =>
        obtain ⟨mark, hmark, he⟩ := Option.map_eq_some_iff.1 h
        cases he
        exact .inr (.inl ⟨c, hmark, rfl⟩)
    · unfold word? at h
      split at h
      · cases h
      · rename_i hname
        cases h
        exact .inr (.inr ⟨_, rfl, hname, rfl⟩)

/-- A token that a rule takes is the first piece of the text. -/
theorem pieces_of_single? (h : single? text = some (t, behind)) :
    pieces none text = .token t :: pieces none behind := by
  rcases exists_of_single? h with ⟨rfl, rfl⟩ | ⟨c, hmark, rfl⟩ | ⟨name, rfl, hname, htake⟩
  · exact pieces_arrow behind
  · exact pieces_mark hmark behind
  · obtain ⟨rfl, rfl⟩ := Prod.mk.inj htake
    conv_lhs => rw [← takeWord_append text]
    exact pieces_word_append (isWord_takeWord hname) (endsWord_takeWord text)

theorem not_mem_takeWhile_ne (c : Char) (text : List Char) : c ∉ text.takeWhile (· ≠ c) := by
  intro h
  simpa using List.mem_takeWhile_imp h

/-- What a segment that the rule takes can be: one without a mark that closes it is the whole
text. -/
theorem exists_of_quoted? (h : quoted? text = some (ts, behind)) :
    ∃ c content, isQuote c = true ∧ c ∉ content ∧
      ((text = c :: content ∧ behind = [] ∧ ts = quote c :: contentOf content) ∨
        text = c :: (content ++ c :: behind) ∧
          ts = quote c :: (contentOf content ++ [quote c])) := by
  cases text with
  | nil => cases h
  | cons c rest =>
    rw [quoted?] at h
    split at h
    · rename_i hquote
      have hrest : rest.takeWhile (· ≠ c) ++ rest.dropWhile (· ≠ c) = rest :=
        List.takeWhile_append_dropWhile
      refine ⟨c, rest.takeWhile (· ≠ c), hquote, not_mem_takeWhile_ne c rest, ?_⟩
      -- Behind the characters that are no mark is the end of the text or the mark that closes.
      split at h
      · rename_i hdrop
        cases h
        rw [hdrop, List.append_nil] at hrest
        exact .inl ⟨by rw [hrest], rfl, rfl⟩
      · rename_i d tail hdrop
        cases h
        have hd : d = c := by
          have hhead := List.head?_dropWhile_not (· ≠ c) rest
          rw [hdrop] at hhead
          simpa using hhead
        rw [hdrop, hd] at hrest
        exact .inr ⟨by rw [hrest], rfl⟩
    · cases h

/-- The content of a segment and the mark behind it, if there is one. -/
theorem pieces_content (hmem : c ∉ text) :
    pieces (some c) text = (contentOf text).map Piece.token ∧
    ∀ behind, pieces (some c) (text ++ c :: behind) =
      (contentOf text ++ [quote c]).map Piece.token ++ pieces none behind := by
  by_cases hne : text = []
  · rw [hne]
    exact ⟨rfl, fun behind => by rw [List.nil_append, pieces_some, if_pos rfl]; rfl⟩
  · rw [contentOf, if_neg hne]
    exact ⟨pieces_unclosed hne hmem, pieces_quoted hne hmem⟩

/-- The tokens of a segment that the rule takes are the first pieces of the text. -/
theorem pieces_of_quoted? (h : quoted? text = some (ts, behind)) :
    pieces none text = ts.map Piece.token ++ pieces none behind := by
  obtain ⟨c, content, hquote, hmem, ⟨rfl, rfl, rfl⟩ | ⟨rfl, rfl⟩⟩ := exists_of_quoted? h
  · rw [pieces_quote hquote, (pieces_content hmem).1, pieces_nil, List.append_nil]
    rfl
  · rw [pieces_quote hquote, (pieces_content hmem).2]
    rfl

/-! ### A rule takes something from every text -/

theorem append_of_single? (h : single? text = some (t, behind)) : t.chars ++ behind = text := by
  rw [← pieces_flatMap_chars none text, pieces_of_single? h, List.flatMap_cons,
    pieces_flatMap_chars]
  rfl

theorem append_of_quoted? (h : quoted? text = some (ts, behind)) :
    ts.flatMap chars ++ behind = text := by
  rw [← pieces_flatMap_chars none text, pieces_of_quoted? h, List.flatMap_append,
    pieces_flatMap_chars, List.flatMap_map]
  rfl

theorem chars_ne_nil_of_single? (h : single? text = some (t, behind)) : t.chars ≠ [] := by
  have hmem : .token t ∈ pieces none text := by
    rw [pieces_of_single? h]
    exact List.mem_cons_self
  exact chars_ne_nil_of_mem_pieces hmem

theorem chars_ne_nil_of_quoted? (h : quoted? text = some (ts, behind)) :
    ts.flatMap chars ≠ [] := by
  obtain ⟨c, content, -, -, ⟨-, -, rfl⟩ | ⟨-, rfl⟩⟩ := exists_of_quoted? h
  all_goals exact List.cons_ne_nil _ _

theorem goesOn_of_arrow?_eq_none (hc : isWordChar c = true) (h : arrow? (c :: rest) = none) :
    goesOn c rest = true := by
  unfold goesOn
  split
  · rename_i hdash
    subst hdash
    by_contra hprefix
    rw [Bool.not_eq_true, Bool.not_eq_false', List.isPrefixOf_iff_prefix] at hprefix
    obtain ⟨tail, rfl⟩ := hprefix
    cases h
  · exact hc

/-- A text that starts with neither a blank nor a quote mark starts with an arrow, a mark or a
word. -/
theorem exists_single? (hblank : isBlank c = false) (hquote : isQuote c = false)
    (rest : List Char) : ∃ t behind, single? (c :: rest) = some (t, behind) := by
  cases harrow : arrow? (c :: rest) with
  | some taken => exact ⟨taken.1, taken.2, by rw [single?, harrow, Option.some_or]⟩
  | none =>
    cases hmark : ofMark? c with
    | some mark => exact ⟨mark, rest, by rw [single?, harrow, mark?, hmark]; rfl⟩
    | none =>
      have hgoes := goesOn_of_arrow?_eq_none (isWordChar_iff.2 ⟨hblank, hquote, hmark⟩) harrow
      have hname : (takeWord (c :: rest)).1 ≠ [] := by
        rw [takeWord, if_pos hgoes]
        exact List.cons_ne_nil _ _
      refine ⟨identifier (takeWord (c :: rest)).1, (takeWord (c :: rest)).2, ?_⟩
      rw [single?, harrow, mark?, hmark, word?, if_neg hname]
      rfl

theorem exists_quoted? (hquote : isQuote c = true) (rest : List Char) :
    ∃ ts behind, quoted? (c :: rest) = some (ts, behind) := by
  rw [quoted?, if_pos hquote]
  split <;> exact ⟨_, _, rfl⟩

/-- Each rule takes a part from the start of the text that is not empty, and every text that does
not start with a blank starts with what some rule takes. -/
theorem exists_taken (hblank : isBlank c = false) (rest : List Char) :
    (∃ ts behind, quoted? (c :: rest) = some (ts, behind) ∧ ts.flatMap chars ≠ [] ∧
      ts.flatMap chars ++ behind = c :: rest) ∨
    quoted? (c :: rest) = none ∧ ∃ t behind, single? (c :: rest) = some (t, behind) ∧
      t.chars ≠ [] ∧ t.chars ++ behind = c :: rest := by
  cases hquote : isQuote c with
  | true =>
    obtain ⟨ts, behind, h⟩ := exists_quoted? hquote rest
    exact .inl ⟨ts, behind, h, chars_ne_nil_of_quoted? h, append_of_quoted? h⟩
  | false =>
    obtain ⟨t, behind, h⟩ := exists_single? hblank hquote rest
    refine .inr ⟨?_, t, behind, h, chars_ne_nil_of_single? h, append_of_single? h⟩
    rw [quoted?, hquote, if_neg Bool.false_ne_true]

/-! ### Rounds -/

/-- What one round takes from the start of a text. -/
inductive Round
  | blanks (text : List Char)
  | quoted (ts : List Token)
  | single (t : Token)
  /-- A character that no rule takes. -/
  | folded (c : Char)

/-- The pieces that a round adds. -/
def Round.pieces : Round → List Piece
  | blanks text => text.map Piece.blank
  | quoted ts => ts.map Piece.token
  | single t => [.token t]
  | folded c => [.token (identifier [c])]

/-- One round over the text `c :: rest`, and the text behind what it takes. -/
def round (c : Char) (rest : List Char) : Round × List Char :=
  if isBlank c then (.blanks (c :: rest.takeWhile isBlank), rest.dropWhile isBlank)
  else
    match quoted? (c :: rest) with
    | some (ts, behind) => (.quoted ts, behind)
    | none =>
      match single? (c :: rest) with
      | some (t, behind) => (.single t, behind)
      | none => (.folded c, rest)

/-- What a round may have taken, with the rule that took it. -/
theorem round_cases (c : Char) (rest : List Char) :
    (∃ blanks behind, round c rest = (.blanks blanks, behind) ∧ blanks ≠ [] ∧ IsBlanks blanks ∧
      blanks ++ behind = c :: rest) ∨
    (∃ ts behind, round c rest = (.quoted ts, behind) ∧ quoted? (c :: rest) = some (ts, behind)) ∨
    ∃ t behind, round c rest = (.single t, behind) ∧ single? (c :: rest) = some (t, behind) := by
  unfold round
  cases hblank : isBlank c with
  | true =>
    refine .inl ⟨_, _, if_pos rfl, List.cons_ne_nil _ _, ?_, ?_⟩
    · exact List.forall_mem_cons.2 ⟨hblank, fun d hd => List.mem_takeWhile_imp hd⟩
    · rw [List.cons_append, List.takeWhile_append_dropWhile]
  | false =>
    rw [if_neg Bool.false_ne_true]
    rcases exists_taken hblank rest with ⟨ts, behind, h, -⟩ | ⟨hnone, t, behind, h, -⟩
    · rw [h]
      exact .inr (.inl ⟨ts, behind, rfl, rfl⟩)
    · rw [hnone, h]
      exact .inr (.inr ⟨t, behind, rfl, rfl⟩)

/-- The pieces of a text are those of one round before those of the text behind it. -/
theorem pieces_round (c : Char) (rest : List Char) :
    pieces none (c :: rest) = (round c rest).1.pieces ++ pieces none (round c rest).2 := by
  rcases round_cases c rest with ⟨blanks, behind, hround, -, hblanks, happend⟩ |
    ⟨ts, behind, hround, h⟩ | ⟨t, behind, hround, h⟩
  · rw [hround, ← happend]
    exact pieces_blanks_append hblanks behind
  · rw [hround]
    exact pieces_of_quoted? h
  · rw [hround]
    exact pieces_of_single? h

theorem round_append (c : Char) (rest : List Char) :
    (round c rest).1.pieces.flatMap Piece.chars ++ (round c rest).2 = c :: rest := by
  conv_rhs => rw [← pieces_flatMap_chars none (c :: rest), pieces_round, List.flatMap_append,
    pieces_flatMap_chars]

/-- Each round takes at least one character. -/
theorem pieces_round_ne_nil (c : Char) (rest : List Char) :
    (round c rest).1.pieces.flatMap Piece.chars ≠ [] := by
  rcases round_cases c rest with ⟨blanks, behind, hround, hne, -⟩ | ⟨ts, behind, hround, h⟩ |
    ⟨t, behind, hround, h⟩
  · rw [hround, Round.pieces, List.flatMap_map]
    cases blanks with
    | nil => exact absurd rfl hne
    | cons b blanks => exact List.cons_ne_nil _ _
  · rw [hround, Round.pieces, List.flatMap_map]
    exact chars_ne_nil_of_quoted? h
  · rw [hround, Round.pieces, List.flatMap_singleton]
    exact chars_ne_nil_of_single? h

theorem length_round_lt (c : Char) (rest : List Char) :
    (round c rest).2.length < (c :: rest).length := by
  have happend := congrArg List.length (round_append c rest)
  have hpos := List.length_pos_iff.2 (pieces_round_ne_nil c rest)
  rw [List.length_append] at happend
  omega

/-- The rounds that read a text. -/
def rounds : List Char → List Round
  | [] => []
  | c :: rest => (round c rest).1 :: rounds (round c rest).2
termination_by text => text.length
decreasing_by exact length_round_lt c rest

/-- No round folds a character. -/
theorem not_folded_of_mem_rounds (c : Char) : ∀ r ∈ rounds text, r ≠ .folded c := by
  fun_induction rounds text with
  | case1 => exact fun _ hr => nomatch hr
  | case2 d rest ih =>
    refine List.forall_mem_cons.2 ⟨?_, ih⟩
    rcases round_cases d rest with ⟨_, _, h, -⟩ | ⟨_, _, h, -⟩ | ⟨_, _, h, -⟩
    all_goals
      rw [h]
      exact nofun

/-- The rounds of a text give its pieces. -/
theorem pieces_eq_flatMap_rounds (text : List Char) :
    pieces none text = (rounds text).flatMap Round.pieces := by
  fun_induction rounds text with
  | case1 => rfl
  | case2 c rest ih => rw [pieces_round, ih, List.flatMap_cons]

end BoxArrow.Token
