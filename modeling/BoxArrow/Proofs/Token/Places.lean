import BoxArrow.Proofs.Token.Lexical

/-!
# Where tokens stand

The tokens of a source can be described without cutting it: by what is written before and behind the
place of each token. From the left, the first quote mark opens a segment of quoted text, which the
next mark of the same kind closes, and so on with the text behind it. Outside the segments an arrow
stands wherever it is written, each structural mark stands for itself, and a word is a run of the
other characters, as long as possible. Hyphens belong to words unless they are part of an arrow.

At most one token can stand over a character.

## Main definitions

* `Text.EndsOutside`, `Text.EndsInside` — texts that end outside and inside quoted text
* `Token.IsInWord` — the characters that words are made of, by what is around them
* `Token.StandsAt` — a token stands between two texts

## Main results

* `Token.StandsAt.unique` — two tokens over the same character are the same
-/

namespace BoxArrow

namespace Text

/-- A text that ends outside quoted text: in each of its segments the next mark of the same kind
closes what a mark has opened. -/
inductive EndsOutside : List Char → Prop
  | nil : EndsOutside []
  | plain {front : List Char} {c : Char} : EndsOutside front → isQuote c = false →
      EndsOutside (front ++ [c])
  | segment {front content : List Char} {mark : Char} : EndsOutside front →
      isQuote mark = true → mark ∉ content → EndsOutside (front ++ mark :: (content ++ [mark]))

/-- A text that ends inside quoted text: `mark` has opened a segment, and `content` is written in it
so far. -/
inductive EndsInside (mark : Char) (content : List Char) : List Char → Prop
  | opened {front : List Char} : EndsOutside front → isQuote mark = true → mark ∉ content →
      EndsInside mark content (front ++ mark :: content)

variable {mode : Option Char} {mark c : Char} {text front back content content' : List Char}

@[simp] theorem modeAfter_append (mode : Option Char) (front back : List Char) :
    modeAfter mode (front ++ back) = modeAfter (modeAfter mode front) back := by
  fun_induction modeAfter mode front with
  | case1 => rfl
  | case2 mark c front ih => rw [List.cons_append, modeAfter, ih]
  | case3 c front ih => rw [List.cons_append, modeAfter, ih]

theorem modeAfter_content (h : mark ∉ content) : modeAfter (some mark) content = some mark := by
  induction content with
  | nil => rfl
  | cons c content ih =>
    obtain ⟨hc, hcontent⟩ := not_or.1 (List.mem_cons.not.1 h)
    rw [modeAfter, if_neg (Ne.symm hc), ih hcontent]

theorem EndsOutside.modeAfter_eq (h : EndsOutside text) : modeAfter none text = none := by
  induction h with
  | nil => rfl
  | plain _ hc ih => simp [ih, modeAfter, hc]
  | segment _ hmark hmem ih => simp [ih, modeAfter, hmark, modeAfter_content hmem]

theorem EndsInside.modeAfter_eq (h : EndsInside mark content text) :
    modeAfter none text = some mark := by
  obtain ⟨hfront, hmark, hmem⟩ := h
  simp [hfront.modeAfter_eq, modeAfter, hmark, modeAfter_content hmem]

/-- No text ends both outside and inside quoted text. -/
theorem EndsOutside.not_endsInside (h : EndsOutside text) : ¬ EndsInside mark content text :=
  fun h' => nomatch h.modeAfter_eq.symm.trans h'.modeAfter_eq

/-- The mark that is open at the end of a text is the one that opened the last segment. -/
theorem EndsInside.mark_unique (h : EndsInside mark content text)
    (h' : EndsInside c content' text) : mark = c :=
  Option.some.inj (h.modeAfter_eq.symm.trans h'.modeAfter_eq)

/-- So is what is written in that segment. -/
theorem EndsInside.content_unique (h : EndsInside mark content text)
    (h' : EndsInside mark content' text) : content = content' := by
  obtain @⟨front, -, -, hmem⟩ := h
  generalize htext : front ++ mark :: content = text at h'
  obtain @⟨front', -, -, hmem'⟩ := h'
  -- A mark further to the right would be in the other content.
  rcases List.append_eq_append_iff.1 htext with ⟨more, -, hmore⟩ | ⟨more, -, hmore⟩
  all_goals
    cases more with
    | nil =>
      obtain ⟨-, rfl⟩ := List.cons.inj hmore
      rfl
    | cons c more =>
      obtain ⟨-, rfl⟩ := List.cons.inj hmore
      simp at hmem hmem'

theorem EndsOutside.append (h : EndsOutside front) (hback : ∀ c ∈ back, isQuote c = false) :
    EndsOutside (front ++ back) := by
  induction back generalizing front with
  | nil => rwa [List.append_nil]
  | cons c back ih =>
    obtain ⟨hc, hback⟩ := List.forall_mem_cons.1 hback
    rw [← List.singleton_append, ← List.append_assoc]
    exact ih (h.plain hc) hback

theorem EndsInside.append (h : EndsInside mark [] text) (hmem : mark ∉ content) :
    EndsInside mark content (text ++ content) := by
  obtain ⟨hfront, hmark, -⟩ := h
  rw [List.append_assoc]
  exact .opened hfront hmark hmem

end Text

namespace Token

open Text (isBlank isQuote EndsOutside EndsInside)

/-- An arrow stands over the character between two texts. -/
def IsInArrow (before : List Char) (c : Char) (after : List Char) : Prop :=
  ∃ left right, arrow.chars = left ++ c :: right ∧ left <:+ before ∧ right <+: after

/-- The character between two texts belongs to a word: it stands outside quoted text, is neither a
blank, a quote mark nor a structural mark, and no arrow stands over it. -/
structure IsInWord (before : List Char) (c : Char) (after : List Char) : Prop where
  endsOutside : EndsOutside before
  isWordChar : isWordChar c = true
  not_isInArrow : ¬ IsInArrow before c after

/-- The text between two others is a run of characters that belong to words, and cannot be made
longer at either end. -/
structure IsRun (before name after : List Char) : Prop where
  ne_nil : name ≠ []
  isInWord : ∀ left c right, name = left ++ c :: right →
    IsInWord (before ++ left) c (right ++ after)
  not_before : ∀ front c, before = front ++ [c] → ¬ IsInWord front c (name ++ after)
  not_after : ∀ c back, after = c :: back → ¬ IsInWord (before ++ name) c back

/-- A token stands between two texts. -/
inductive StandsAt (before : List Char) : Token → List Char → Prop
  /-- The first mark outside quoted text opens a segment. -/
  | opening {mark : Char} {after : List Char} : EndsOutside before → isQuote mark = true →
      StandsAt before (quote mark) after
  /-- The content of a segment runs to the mark that closes it or to the end. -/
  | content {mark : Char} {content after : List Char} : EndsInside mark [] before →
      content ≠ [] → mark ∉ content → (∀ c ∈ after.head?, c = mark) →
      StandsAt before (text content) after
  /-- A mark of the same kind closes a segment. -/
  | closing {mark : Char} {content after : List Char} : EndsInside mark content before →
      StandsAt before (quote mark) after
  | arrow {after : List Char} : EndsOutside before → StandsAt before arrow after
  /-- Each of the ten marks stands alone. -/
  | mark {c : Char} {t : Token} {after : List Char} : EndsOutside before → (c, t) ∈ marks →
      StandsAt before t after
  | word {name after : List Char} : IsRun before name after →
      StandsAt before (identifier name) after

variable {before before' after after' left right rest name name' content content' : List Char}
  {c d mark : Char} {t t' : Token}

/-! ### What a character belongs to -/

theorem eq_of_mem_arrow (h : c ∈ arrow.chars) : c = '-' ∨ c = '>' := by
  simpa [chars, or_comm] using h

theorem isQuote_of_mem_arrow (h : c ∈ arrow.chars) : isQuote c = false := by
  rcases eq_of_mem_arrow h with rfl | rfl <;> rfl

theorem IsInArrow.eq_or (h : IsInArrow before c after) : c = '-' ∨ c = '>' := by
  obtain ⟨left, right, hchars, -⟩ := h
  exact eq_of_mem_arrow (hchars ▸ List.mem_append_right left List.mem_cons_self)

theorem IsInArrow.isWordChar (h : IsInArrow before c after) : isWordChar c = true := by
  rcases h.eq_or with rfl | rfl <;> decide

theorem isInArrow_start (before rest : List Char) : IsInArrow before '-' ('-' :: '>' :: rest) :=
  ⟨[], ['-', '>'], rfl, List.nil_suffix, rest, rfl⟩

theorem isWordChar_of_isQuote (h : isQuote c = true) : isWordChar c = false := by
  simp [isWordChar, h]

theorem isBlank_of_ofMark? (h : ofMark? c = some t) : isBlank c = false := by
  unfold ofMark? at h
  split at h <;> first | rfl | cases h

/-- No arrow is written in a run. -/
theorem IsRun.not_arrow_infix (h : IsRun before name after) : ¬ arrow.chars <:+: name := by
  rintro ⟨left, right, rfl⟩
  have hword := h.isInWord left '-' ('-' :: '>' :: right) (by simp [chars])
  exact hword.not_isInArrow (isInArrow_start _ _)

namespace StandsAt

theorem isRun (h : StandsAt before (identifier name) after) : IsRun before name after := by
  cases h with
  | mark _ hmark =>
    have hword := ne_identifier_of_ofMark? (ofMark?_eq_some_iff.2 hmark)
    cases hword
  | word hrun => exact hrun

theorem chars_ne_nil (h : StandsAt before t after) : t.chars ≠ [] := by
  cases h with
  | opening | closing | arrow => exact List.cons_ne_nil _ _
  | content _ hne => exact hne
  | mark _ hmark =>
    rw [chars_ofMark? (ofMark?_eq_some_iff.2 hmark)]
    exact List.cons_ne_nil _ _
  | word hrun => exact hrun.ne_nil

/-! ### The character that a token starts with tells which one it is -/

/-- Inside quoted text stands the mark that closes it, or else the content that was opened. -/
theorem of_endsInside (h : StandsAt before t after) (htext : t.chars ++ after = d :: rest)
    (hinside : EndsInside mark content before) :
    (d = mark ∧ t = quote mark) ∨ d ≠ mark ∧ ∃ text, t = Token.text text ∧
      EndsInside mark [] before ∧ mark ∉ text ∧ ∀ c ∈ after.head?, c = mark := by
  cases h with
  | opening houtside | arrow houtside | mark houtside =>
    exact absurd hinside houtside.not_endsInside
  | word hrun =>
    obtain ⟨c, name, rfl⟩ := List.exists_cons_of_ne_nil hrun.ne_nil
    have hword := hrun.isInWord [] c name rfl
    rw [List.append_nil] at hword
    exact absurd hinside hword.endsOutside.not_endsInside
  | closing hinside' =>
    cases hinside.mark_unique hinside'
    exact .inl ⟨(List.cons.inj htext).1.symm, rfl⟩
  | @content _ text _ hinside' hne hmem hhead =>
    cases hinside.mark_unique hinside'
    refine .inr ⟨?_, text, rfl, hinside', hmem, hhead⟩
    rintro rfl
    obtain ⟨c, text, rfl⟩ := List.exists_cons_of_ne_nil hne
    exact hmem ((List.cons.inj htext).1 ▸ List.mem_cons_self)

/-- Outside quoted text stand the four kinds of tokens that the first character tells apart, an
arrow and a word by what is around it. -/
theorem of_endsOutside (h : StandsAt before t after) (htext : t.chars ++ after = d :: rest)
    (houtside : EndsOutside before) :
    (isQuote d = true ∧ t = quote d) ∨ (t = Token.arrow ∧ IsInArrow before d rest) ∨
      ofMark? d = some t ∨
      ∃ name, t = identifier name ∧ IsRun before name after ∧ IsInWord before d rest := by
  cases h with
  | opening _ hquote =>
    obtain ⟨rfl, -⟩ := List.cons.inj htext
    exact .inl ⟨hquote, rfl⟩
  | content hinside | closing hinside => exact absurd hinside houtside.not_endsInside
  | arrow =>
    obtain ⟨rfl, rfl⟩ := List.cons.inj htext
    exact .inr (.inl ⟨rfl, isInArrow_start before after⟩)
  | mark _ hmark =>
    rw [← ofMark?_eq_some_iff] at hmark
    rw [chars_ofMark? hmark] at htext
    obtain ⟨rfl, -⟩ := List.cons.inj htext
    exact .inr (.inr (.inl hmark))
  | word hrun =>
    obtain ⟨c, name, rfl⟩ := List.exists_cons_of_ne_nil hrun.ne_nil
    obtain ⟨rfl, rfl⟩ := List.cons.inj htext
    have hword := hrun.isInWord [] c name rfl
    rw [List.append_nil] at hword
    exact .inr (.inr (.inr ⟨_, rfl, hrun, hword⟩))

theorem of_isQuote (h : StandsAt before t after) (htext : t.chars ++ after = d :: rest)
    (houtside : EndsOutside before) (hquote : isQuote d = true) : t = quote d := by
  rcases h.of_endsOutside htext houtside with ⟨-, ht⟩ | ⟨-, harrow⟩ | hmark | ⟨_, -, -, hword⟩
  · exact ht
  · exact absurd harrow.isWordChar (by simp [isWordChar_of_isQuote hquote])
  · exact absurd hquote (by simp [isQuote_of_ofMark? hmark])
  · exact absurd hword.isWordChar (by simp [isWordChar_of_isQuote hquote])

theorem of_isInArrow (h : StandsAt before t after) (htext : t.chars ++ after = d :: rest)
    (houtside : EndsOutside before) (harrow : IsInArrow before d rest) : t = Token.arrow := by
  rcases h.of_endsOutside htext houtside with ⟨hquote, -⟩ | ⟨ht, -⟩ | hmark | ⟨_, -, -, hword⟩
  · exact absurd harrow.isWordChar (by simp [isWordChar_of_isQuote hquote])
  · exact ht
  · exact absurd harrow.isWordChar (by simp [isWordChar_of_ofMark? hmark])
  · exact absurd harrow hword.not_isInArrow

theorem of_ofMark? (h : StandsAt before t after) (htext : t.chars ++ after = d :: rest)
    (houtside : EndsOutside before) (hmark' : ofMark? d = some t') : t = t' := by
  rcases h.of_endsOutside htext houtside with ⟨hquote, -⟩ | ⟨-, harrow⟩ | hmark |
    ⟨_, -, -, hword⟩
  · exact absurd hquote (by simp [isQuote_of_ofMark? hmark'])
  · exact absurd harrow.isWordChar (by simp [isWordChar_of_ofMark? hmark'])
  · exact Option.some.inj (hmark.symm.trans hmark')
  · exact absurd hword.isWordChar (by simp [isWordChar_of_ofMark? hmark'])

theorem of_isInWord (h : StandsAt before t after) (htext : t.chars ++ after = d :: rest)
    (hword : IsInWord before d rest) : ∃ name, t = identifier name ∧ IsRun before name after := by
  rcases h.of_endsOutside htext hword.endsOutside with ⟨hquote, -⟩ | ⟨-, harrow⟩ | hmark |
    ⟨name, ht, hrun, -⟩
  · exact absurd hword.isWordChar (by simp [isWordChar_of_isQuote hquote])
  · exact absurd harrow hword.not_isInArrow
  · exact absurd hword.isWordChar (by simp [isWordChar_of_ofMark? hmark])
  · exact ⟨name, ht, hrun⟩

theorem not_isBlank (h : StandsAt before t after) (htext : t.chars ++ after = d :: rest)
    (houtside : EndsOutside before) : isBlank d = false := by
  have hwordChar {c : Char} (hc : Token.isWordChar c = true) : isBlank c = false :=
    (isWordChar_iff.1 hc).1
  rcases h.of_endsOutside htext houtside with ⟨hquote, -⟩ | ⟨-, harrow⟩ | hmark | ⟨_, -, -, hword⟩
  · cases hblank : isBlank d with
    | false => rfl
    | true => exact absurd hquote (Text.not_isQuote_of_isBlank hblank)
  · exact hwordChar harrow.isWordChar
  · exact isBlank_of_ofMark? hmark
  · exact hwordChar hword.isWordChar

end StandsAt

/-! ### Two tokens over one character -/

/-- A run does not go on where another one ends. -/
theorem IsRun.not_append_cons (h : IsRun before name (d :: after))
    (h' : IsRun before (name ++ d :: rest) after') (htail : after = rest ++ after') : False := by
  apply h.not_after d after rfl
  rw [htail]
  exact h'.isInWord name d rest rfl

theorem IsRun.unique (h : IsRun before name after) (h' : IsRun before name' after')
    (htext : name ++ after = name' ++ after') : name = name' := by
  rcases List.append_eq_append_iff.1 htext with ⟨more, rfl, rfl⟩ | ⟨more, rfl, rfl⟩
  · cases more with
    | nil => exact (List.append_nil name).symm
    | cons d more => exact (h.not_append_cons h' rfl).elim
  · cases more with
    | nil => exact List.append_nil name'
    | cons d more => exact (h'.not_append_cons h rfl).elim

/-- The content of a segment ends with the first mark of its kind. -/
theorem content_unique (hmem : mark ∉ content) (hmem' : mark ∉ content')
    (hhead : ∀ c ∈ after.head?, c = mark) (hhead' : ∀ c ∈ after'.head?, c = mark)
    (htext : content ++ after = content' ++ after') : content = content' := by
  rcases List.append_eq_append_iff.1 htext with ⟨more, rfl, rfl⟩ | ⟨more, rfl, rfl⟩
  · cases more with
    | nil => exact (List.append_nil content).symm
    | cons d more => exact absurd (hhead d rfl ▸ by simp) hmem'
  · cases more with
    | nil => exact List.append_nil content'
    | cons d more => exact absurd (hhead' d rfl ▸ by simp) hmem

/-- Two arrows do not overlap. -/
theorem eq_nil_of_arrow (h : arrow.chars = left ++ d :: right)
    (htext : arrow.chars ++ after = d :: (right ++ after')) : left = [] := by
  match left with
  | [] => rfl
  | [c] =>
    -- The second arrow would start with the second hyphen of the first one.
    obtain ⟨-, rfl⟩ := List.cons.inj (List.cons.inj h).2
    cases (List.cons.inj (List.cons.inj htext).2).1
  | [c, e] =>
    obtain ⟨rfl, -⟩ := List.cons.inj (List.cons.inj (List.cons.inj h).2).2
    cases (List.cons.inj htext).1
  | c :: e :: f :: left => simp [chars] at h

theorem eq_nil_of_singleton (h : [c] = left ++ d :: right) : left = [] ∧ c = d := by
  cases left with
  | nil => exact ⟨rfl, (List.cons.inj h).1⟩
  | cons e left => simp at h

/-- At most one token stands over a character: if one starts at a character of another, they are the
same. -/
theorem StandsAt.unique (h : StandsAt (before ++ left) t after) (h' : StandsAt before t' after')
    (hchars : t'.chars = left ++ d :: right) (htext : t.chars ++ after = d :: (right ++ after')) :
    left = [] ∧ t = t' := by
  -- Both tokens have the character `d`: `t'` has it behind `left`, and `t` starts with it. What
  -- `t'` is tells how `d` stands in the text, and that tells what `t` is.
  cases h' with
  | opening houtside hquote =>
    obtain ⟨rfl, rfl⟩ := eq_nil_of_singleton hchars
    rw [List.append_nil] at h
    exact ⟨rfl, h.of_isQuote htext houtside hquote⟩
  | closing hinside =>
    obtain ⟨rfl, rfl⟩ := eq_nil_of_singleton hchars
    rw [List.append_nil] at h
    rcases h.of_endsInside htext hinside with ⟨-, ht⟩ | ⟨hne, -⟩
    · exact ⟨rfl, ht⟩
    · exact absurd rfl hne
  | @content mark content _ hinside hne hmem hhead =>
    change content = _ at hchars
    subst hchars
    obtain ⟨hleft, hright⟩ := not_or.1 (List.mem_append.not.1 hmem)
    have hinside' := hinside.append hleft
    rcases h.of_endsInside htext hinside' with ⟨rfl, -⟩ | ⟨-, content, rfl, hopened, hmem', hhead'⟩
    · exact absurd List.mem_cons_self hright
    · -- The segment opens directly before both contents.
      cases hinside'.content_unique hopened
      exact ⟨rfl, congrArg Token.text (content_unique hmem' hmem hhead' hhead htext)⟩
  | arrow houtside =>
    have hleft : ∀ c ∈ left, isQuote c = false := fun _ hc =>
      isQuote_of_mem_arrow (hchars ▸ List.mem_append_left _ hc)
    obtain rfl := h.of_isInArrow htext (houtside.append hleft)
      ⟨left, right, hchars, List.suffix_append _ _, List.prefix_append _ _⟩
    exact ⟨eq_nil_of_arrow hchars htext, rfl⟩
  | mark houtside hmark =>
    rw [← ofMark?_eq_some_iff] at hmark
    rw [chars_ofMark? hmark] at hchars
    obtain ⟨rfl, rfl⟩ := eq_nil_of_singleton hchars
    rw [List.append_nil] at h
    exact ⟨rfl, h.of_ofMark? htext houtside hmark⟩
  | @word name _ hrun =>
    have hword := hrun.isInWord left d right hchars
    obtain ⟨name', rfl, hrun'⟩ := h.of_isInWord htext hword
    change name = _ at hchars
    change name' ++ after = _ at htext
    rcases List.eq_nil_or_concat left with rfl | ⟨front, c, rfl⟩
    · rw [List.append_nil] at hrun'
      refine ⟨rfl, congrArg identifier (hrun'.unique hrun ?_)⟩
      rw [htext, hchars]
      rfl
    · -- The run would go on to the left.
      refine absurd ?_ (hrun'.not_before (before ++ front) c (by simp))
      rw [htext]
      exact hrun.isInWord front c (d :: right) (by simp [hchars])

end Token

end BoxArrow
