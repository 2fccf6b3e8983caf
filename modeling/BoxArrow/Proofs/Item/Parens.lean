import BoxArrow.Item
import BoxArrow.Proofs.Text.Split
import BoxArrow.Statement.Reader
import Mathlib.Algebra.GroupWithZero.Nat

/-!
# Parentheses around a block

A block may be written with parentheses around it, and is then read as it is written between them.
A block without them, as a source has it once it is read, is read the same way only if no
parenthesis at its ends is taken for one around it: a block whose first item starts with `(` loses
that character, and a block whose last item ends with `)` loses that one.

## Main definitions

* `Item.written` — the items of a text, none of its characters left out
* `Item.LosesOpening`, `Item.LosesClosing` — blocks with an item that loses a parenthesis

## Main results

* `Item.ofBlock_eq_ofBlock_parens_iff` — when the parentheses around a block make no difference
-/

namespace BoxArrow.Item

open Text (trim isBlank cut? splitUnquoted IsPlain IsBlanks)

/-- The items of a text. No parenthesis is taken for one around the block. -/
def written (text : List Char) : List Item := (splitUnquoted ',' text).filterMap ofItem?

/-- Whether the first part of a text is an item. -/
def startsWithItem (text : List Char) : Bool :=
  ((splitUnquoted ',' text).head?.bind ofItem?).isSome

/-- Whether the last part of a text is an item. -/
def endsWithItem (text : List Char) : Bool :=
  ((splitUnquoted ',' text).getLast?.bind ofItem?).isSome

/-- The first item of a block starts with a parenthesis. -/
def LosesOpening (text : List Char) : Prop :=
  (trim text).head? = some '(' ∧ startsWithItem text = true

/-- The last item of a block ends with a parenthesis. -/
def LosesClosing (text : List Char) : Prop :=
  (trim text).getLast? = some ')' ∧ endsWithItem text = true

/-! ### Margins

Blanks and parentheses at the ends of a text do not separate its parts, nor its keys from its
values. -/

/-- A text of blanks and parentheses. -/
def IsMargin (text : List Char) : Prop := ∀ c ∈ text, isBlank c = true ∨ c = '(' ∨ c = ')'

section Margin

variable {front back : List Char} {separator : Char}

theorem isMargin_of_isBlanks (h : IsBlanks front) : IsMargin front := fun c hc => .inl (h c hc)

theorem IsMargin.isPlain (h : IsMargin front) (hseparator : separator = ',' ∨ separator = ':') :
    IsPlain separator front := by
  intro c hc
  rcases h c hc with hblank | rfl | rfl
  · refine ⟨eq_false_of_ne_true (Text.not_isQuote_of_isBlank hblank), ?_⟩
    rintro rfl
    rcases hseparator with rfl | rfl <;> cases hblank
  · rcases hseparator with rfl | rfl <;> decide
  · rcases hseparator with rfl | rfl <;> decide

theorem IsMargin.not_mem (h : IsMargin back) (hseparator : separator = ',' ∨ separator = ':') :
    separator ∉ back :=
  fun hmem => (h.isPlain hseparator separator hmem).2 rfl

theorem isSome_ofItem? (part : List Char) : (ofItem? part).isSome = (cut? ':' none part).isSome :=
  Option.isSome_map

theorem isSome_ofItem?_append_left (h : IsMargin front) (part : List Char) :
    (ofItem? (front ++ part)).isSome = (ofItem? part).isSome := by
  rw [isSome_ofItem?, isSome_ofItem?, Text.cut?_append_left (h.isPlain (.inr rfl)),
    Option.isSome_map]

theorem isSome_ofItem?_append_right (h : IsMargin back) (part : List Char) :
    (ofItem? (part ++ back)).isSome = (ofItem? part).isSome := by
  rw [isSome_ofItem?, isSome_ofItem?, Text.cut?_append_right (h.not_mem (.inr rfl)),
    Option.isSome_map]

theorem startsWithItem_append_left (h : IsMargin front) (text : List Char) :
    startsWithItem (front ++ text) = startsWithItem text := by
  obtain ⟨first, rest, hsplit, hsplit'⟩ :=
    Text.splitUnquoted_append_left (h.isPlain (.inl rfl)) text
  rw [startsWithItem, startsWithItem, hsplit, hsplit']
  exact isSome_ofItem?_append_left h first

theorem startsWithItem_append_right (h : IsMargin back) (text : List Char) :
    startsWithItem (text ++ back) = startsWithItem text := by
  obtain ⟨parts, last, hsplit, hsplit'⟩ :=
    Text.splitUnquoted_append_right (h.not_mem (.inl rfl)) text
  rw [startsWithItem, startsWithItem, hsplit, hsplit']
  cases parts with
  | nil => exact isSome_ofItem?_append_right h last
  | cons first parts => rfl

theorem endsWithItem_append_left (h : IsMargin front) (text : List Char) :
    endsWithItem (front ++ text) = endsWithItem text := by
  obtain ⟨first, rest, hsplit, hsplit'⟩ :=
    Text.splitUnquoted_append_left (h.isPlain (.inl rfl)) text
  rw [endsWithItem, endsWithItem, hsplit, hsplit']
  cases rest with
  | nil => exact isSome_ofItem?_append_left h first
  | cons second rest => rw [List.getLast?_cons_cons, List.getLast?_cons_cons]

theorem endsWithItem_append_right (h : IsMargin back) (text : List Char) :
    endsWithItem (text ++ back) = endsWithItem text := by
  obtain ⟨parts, last, hsplit, hsplit'⟩ :=
    Text.splitUnquoted_append_right (h.not_mem (.inl rfl)) text
  rw [endsWithItem, endsWithItem, hsplit, hsplit', List.getLast?_concat, List.getLast?_concat]
  exact isSome_ofItem?_append_right h last

end Margin

/-! ### Blanks around items -/

section Blanks

variable {front back : List Char}

theorem ofItem?_append_left (h : IsBlanks front) (part : List Char) :
    ofItem? (front ++ part) = ofItem? part := by
  have hplain := (isMargin_of_isBlanks h).isPlain (.inr rfl)
  rw [ofItem?, Text.cut?_append_left hplain, Option.map_map]
  refine congrArg (Option.map · _) (funext fun halves => ?_)
  change Item.mk (.ofList (trim (front ++ halves.1))) _ = _
  rw [Text.trim_append_left h]
  rfl

theorem ofItem?_append_right (h : IsBlanks back) (part : List Char) :
    ofItem? (part ++ back) = ofItem? part := by
  have hmem := (isMargin_of_isBlanks h).not_mem (.inr rfl)
  rw [ofItem?, Text.cut?_append_right hmem, Option.map_map]
  refine congrArg (Option.map · _) (funext fun halves => ?_)
  change Item.mk _ (.ofList (dropQuotes (trim (halves.2 ++ back)))) = _
  rw [Text.trim_append_right h]
  rfl

theorem ofItem?_trim (part : List Char) : ofItem? (trim part) = ofItem? part := by
  obtain ⟨front, back, hfront, hback, hpart⟩ := Text.exists_eq_append_trim part
  conv_rhs => rw [hpart]
  rw [ofItem?_append_right hback, ofItem?_append_left hfront]

theorem written_append_left (h : IsBlanks front) (text : List Char) :
    written (front ++ text) = written text := by
  obtain ⟨first, rest, hsplit, hsplit'⟩ :=
    Text.splitUnquoted_append_left ((isMargin_of_isBlanks h).isPlain (.inl rfl)) text
  rw [written, written, hsplit, hsplit', List.filterMap_cons, List.filterMap_cons,
    ofItem?_append_left h]

theorem written_append_right (h : IsBlanks back) (text : List Char) :
    written (text ++ back) = written text := by
  obtain ⟨parts, last, hsplit, hsplit'⟩ :=
    Text.splitUnquoted_append_right ((isMargin_of_isBlanks h).not_mem (.inl rfl)) text
  rw [written, written, hsplit, hsplit', List.filterMap_append, List.filterMap_append,
    List.filterMap_cons, List.filterMap_cons, ofItem?_append_right h]

end Blanks

/-- Blanks at the ends of a text have no part in its items. -/
theorem written_trim (text : List Char) : written (trim text) = written text := by
  obtain ⟨front, back, hfront, hback, htext⟩ := Text.exists_eq_append_trim text
  conv_rhs => rw [htext]
  rw [written_append_right hback, written_append_left hfront]

theorem startsWithItem_trim (text : List Char) :
    startsWithItem (trim text) = startsWithItem text := by
  obtain ⟨front, back, hfront, hback, htext⟩ := Text.exists_eq_append_trim text
  conv_rhs => rw [htext]
  rw [startsWithItem_append_right (isMargin_of_isBlanks hback),
    startsWithItem_append_left (isMargin_of_isBlanks hfront)]

theorem endsWithItem_trim (text : List Char) : endsWithItem (trim text) = endsWithItem text := by
  obtain ⟨front, back, hfront, hback, htext⟩ := Text.exists_eq_append_trim text
  conv_rhs => rw [htext]
  rw [endsWithItem_append_right (isMargin_of_isBlanks hback),
    endsWithItem_append_left (isMargin_of_isBlanks hfront)]

/-! ### Parentheses that belong to items

A parenthesis at the end of an item makes its key or its value longer. Since no text is ever made
shorter by a further parenthesis, two of them cannot make up for each other. -/

/-- The number of characters of an item. -/
def size (item : Item) : Nat := item.key.length + item.value.length

/-- The number of characters of all items of a text. -/
def totalSize (text : List Char) : Nat := ((written text).map size).sum

theorem isMargin_opening : IsMargin ['('] := by
  intro c hc
  exact .inr (.inl (List.mem_singleton.1 hc))

theorem isMargin_closing : IsMargin [')'] := by
  intro c hc
  exact .inr (.inr (List.mem_singleton.1 hc))

theorem length_dropQuotes_le (text : List Char) : (dropQuotes text).length ≤ text.length := by
  cases text with
  | nil => exact Nat.le_refl _
  | cons mark text =>
    rw [dropQuotes]
    split
    · rw [List.length_dropLast, List.length_cons]
      omega
    · exact Nat.le_refl _

/-- A value that ends with a parenthesis is not in quotes. -/
theorem dropQuotes_append_closing (text : List Char) :
    dropQuotes (text ++ [')']) = text ++ [')'] := by
  cases text with
  | nil => rfl
  | cons mark text =>
    rw [List.cons_append, dropQuotes, List.getLast?_concat]
    refine if_neg fun h => ?_
    obtain ⟨hquote, hmark⟩ := Bool.and_eq_true_iff.1 h
    obtain rfl := Option.some.inj (of_decide_eq_true hmark)
    cases hquote

theorem size_lt_of_opening {part : List Char} {item : Item} (h : ofItem? part = some item) :
    ∃ item', ofItem? (['('] ++ part) = some item' ∧ item.size < item'.size := by
  -- The parenthesis goes to the key, whose first character it is.
  obtain ⟨halves, hcut, rfl⟩ := Option.map_eq_some_iff.1 h
  rw [ofItem?, Text.cut?_append_left (isMargin_opening.isPlain (.inr rfl)), hcut]
  refine ⟨_, rfl, Nat.add_lt_add_right ?_ _⟩
  change (String.ofList (trim halves.1)).length < (String.ofList (trim ('(' :: halves.1))).length
  rw [Text.trim_cons rfl, String.length_ofList, String.length_ofList, List.length_cons]
  exact Nat.lt_succ_of_le (Text.length_trim_le_trimRight _)

theorem size_lt_of_closing {part : List Char} {item : Item} (h : ofItem? part = some item) :
    ∃ item', ofItem? (part ++ [')']) = some item' ∧ item.size < item'.size := by
  -- The parenthesis goes to the value, which loses quote marks without it at most.
  obtain ⟨halves, hcut, rfl⟩ := Option.map_eq_some_iff.1 h
  rw [ofItem?, Text.cut?_append_right (isMargin_closing.not_mem (.inr rfl)), hcut]
  refine ⟨_, rfl, Nat.add_lt_add_left ?_ _⟩
  change (String.ofList (dropQuotes (trim halves.2))).length <
    (String.ofList (dropQuotes (trim (halves.2 ++ [')'])))).length
  rw [Text.trim_append_singleton rfl, dropQuotes_append_closing, String.length_ofList,
    String.length_ofList, List.length_append, List.length_singleton]
  exact Nat.lt_succ_of_le
    ((length_dropQuotes_le _).trans (Text.length_trim_le_trimLeft _))

theorem written_opening (text : List Char) (h : startsWithItem text = false) :
    written (['('] ++ text) = written text := by
  obtain ⟨first, rest, hsplit, hsplit'⟩ :=
    Text.splitUnquoted_append_left (isMargin_opening.isPlain (.inl rfl)) text
  rw [startsWithItem, hsplit] at h
  have hfirst : ofItem? first = none :=
    Option.isNone_iff_eq_none.1 (Option.isSome_eq_false_iff.1 h)
  have hfirst' : ofItem? (['('] ++ first) = none := by
    rw [← Option.isNone_iff_eq_none, ← Option.isSome_eq_false_iff,
      isSome_ofItem?_append_left isMargin_opening, hfirst]
    rfl
  rw [written, written, hsplit, hsplit', List.filterMap_cons_none hfirst,
    List.filterMap_cons_none hfirst']

theorem totalSize_lt_opening (text : List Char) (h : startsWithItem text = true) :
    totalSize text < totalSize (['('] ++ text) := by
  obtain ⟨first, rest, hsplit, hsplit'⟩ :=
    Text.splitUnquoted_append_left (isMargin_opening.isPlain (.inl rfl)) text
  rw [startsWithItem, hsplit] at h
  obtain ⟨item, (hfirst : ofItem? first = some item)⟩ := Option.isSome_iff_exists.1 h
  obtain ⟨item', hfirst', hlt⟩ := size_lt_of_opening hfirst
  rw [totalSize, totalSize, written, written, hsplit, hsplit', List.filterMap_cons_some hfirst,
    List.filterMap_cons_some hfirst', List.map_cons, List.map_cons, List.sum_cons, List.sum_cons]
  exact Nat.add_lt_add_right hlt _

theorem written_closing (text : List Char) (h : endsWithItem text = false) :
    written (text ++ [')']) = written text := by
  obtain ⟨parts, last, hsplit, hsplit'⟩ :=
    Text.splitUnquoted_append_right (isMargin_closing.not_mem (.inl rfl)) text
  rw [endsWithItem, hsplit, List.getLast?_concat] at h
  have hlast : ofItem? last = none :=
    Option.isNone_iff_eq_none.1 (Option.isSome_eq_false_iff.1 h)
  have hlast' : ofItem? (last ++ [')']) = none := by
    rw [← Option.isNone_iff_eq_none, ← Option.isSome_eq_false_iff,
      isSome_ofItem?_append_right isMargin_closing, hlast]
    rfl
  rw [written, written, hsplit, hsplit', List.filterMap_append, List.filterMap_append,
    List.filterMap_cons_none hlast, List.filterMap_cons_none hlast']

theorem totalSize_lt_closing (text : List Char) (h : endsWithItem text = true) :
    totalSize text < totalSize (text ++ [')']) := by
  obtain ⟨parts, last, hsplit, hsplit'⟩ :=
    Text.splitUnquoted_append_right (isMargin_closing.not_mem (.inl rfl)) text
  rw [endsWithItem, hsplit, List.getLast?_concat] at h
  obtain ⟨item, (hlast : ofItem? last = some item)⟩ := Option.isSome_iff_exists.1 h
  obtain ⟨item', hlast', hlt⟩ := size_lt_of_closing hlast
  rw [totalSize, totalSize, written, written, hsplit, hsplit', List.filterMap_append,
    List.filterMap_append, List.filterMap_cons_some hlast, List.filterMap_cons_some hlast',
    List.map_append, List.map_append, List.sum_append, List.sum_append]
  exact Nat.add_lt_add_left (Nat.add_lt_add_right hlt _) _

/-! ### Blocks -/

theorem ofBlock_eq_written (text : String) :
    ofBlock text = written (dropParens (trim text.toList)) := by
  rw [ofBlock, written, List.filterMap_map]
  exact congrArg (List.filterMap · _) (funext ofItem?_trim)

/-- A block in parentheses is read as it is written between them. -/
theorem ofBlock_parens (text : String) : ofBlock ("(" ++ text ++ ")") = written text.toList := by
  have htext : ("(" ++ text ++ ")").toList = '(' :: (text.toList ++ [')']) := by
    rw [String.toList_append, String.toList_append]
    rfl
  have htrim : trim ('(' :: (text.toList ++ [')'])) = '(' :: (text.toList ++ [')']) := by
    rw [← List.cons_append, Text.trim_append_singleton rfl]
    exact congrArg (· ++ [')']) (List.dropWhile_cons_of_neg (by decide))
  rw [ofBlock_eq_written, htext, htrim, dropParens]
  simp

/-- Either no parenthesis is taken from the start of a text, or one. -/
theorem exists_eq_append_tail (text : List Char) :
    ∃ front, (front = [] ∨ front = ['(']) ∧ (text.head? = some '(' ↔ front = ['(']) ∧
      text = front ++ if text.head? = some '(' then text.tail else text := by
  by_cases h : text.head? = some '('
  · obtain ⟨rest, rfl⟩ := List.head?_eq_some_iff.1 h
    exact ⟨['('], .inr rfl, iff_of_true h rfl, by rw [if_pos h]; rfl⟩
  · exact ⟨[], .inl rfl, iff_of_false h (by decide), by rw [if_neg h]; rfl⟩

/-- Either no parenthesis is taken from the end of a text, or one. -/
theorem exists_eq_append_dropLast (text : List Char) :
    ∃ back, (back = [] ∨ back = [')']) ∧ (text.getLast? = some ')' ↔ back = [')']) ∧
      text = (if text.getLast? = some ')' then text.dropLast else text) ++ back := by
  by_cases h : text.getLast? = some ')'
  · obtain ⟨rest, rfl⟩ := List.getLast?_eq_some_iff.1 h
    exact ⟨[')'], .inr rfl, iff_of_true h rfl, by rw [if_pos h, List.dropLast_concat]⟩
  · exact ⟨[], .inl rfl, iff_of_false h (by decide), by rw [if_neg h, List.append_nil]⟩

/-- What is taken from the two ends of a text for parentheses around it. -/
theorem exists_eq_append_dropParens (text : List Char) :
    ∃ front back, (front = [] ∨ front = ['(']) ∧ (back = [] ∨ back = [')']) ∧
      (text.head? = some '(' ↔ front = ['(']) ∧ (text.getLast? = some ')' ↔ back = [')']) ∧
      text = front ++ (dropParens text ++ back) := by
  obtain ⟨front, hfront, hhead, hrest⟩ := exists_eq_append_tail text
  rw [dropParens]
  generalize (if text.head? = some '(' then text.tail else text) = rest at hrest ⊢
  obtain ⟨back, hback, hlast, hinner⟩ := exists_eq_append_dropLast rest
  refine ⟨front, back, hfront, hback, hhead, ?_, by rw [← hinner]; exact hrest⟩
  -- A single parenthesis that opens the block is not one that closes it.
  rw [← hlast, hrest]
  rcases hfront with rfl | rfl
  · rfl
  · cases rest with
    | nil => exact iff_of_false (by decide) (by decide)
    | cons c rest => rw [List.singleton_append, List.getLast?_cons_cons]

/-- A parenthesis before a text makes a difference only if the text starts with an item. -/
theorem written_append_left_or {front : List Char} (h : front = [] ∨ front = ['('])
    (text : List Char) :
    written (front ++ text) = written text ∧ ¬(front = ['('] ∧ startsWithItem text = true) ∨
      totalSize text < totalSize (front ++ text) ∧ front = ['('] ∧ startsWithItem text = true := by
  rcases h with rfl | rfl
  · exact .inl ⟨rfl, fun h => absurd h.1 (by decide)⟩
  · cases hitem : startsWithItem text with
    | false => exact .inl ⟨written_opening text hitem, fun h => absurd h.2 Bool.false_ne_true⟩
    | true => exact .inr ⟨totalSize_lt_opening text hitem, rfl, rfl⟩

/-- A parenthesis after a text makes a difference only if the text ends with an item. -/
theorem written_append_right_or {back : List Char} (h : back = [] ∨ back = [')'])
    (text : List Char) :
    written (text ++ back) = written text ∧ ¬(back = [')'] ∧ endsWithItem text = true) ∨
      totalSize text < totalSize (text ++ back) ∧ back = [')'] ∧ endsWithItem text = true := by
  rcases h with rfl | rfl
  · exact .inl ⟨by rw [List.append_nil], fun h => absurd h.1 (by decide)⟩
  · cases hitem : endsWithItem text with
    | false => exact .inl ⟨written_closing text hitem, fun h => absurd h.2 Bool.false_ne_true⟩
    | true => exact .inr ⟨totalSize_lt_closing text hitem, rfl, rfl⟩

/-- The parentheses around a block make no difference if and only if it has no item that would
lose one of its own. With them, the block is read as it is written between them. -/
theorem ofBlock_eq_ofBlock_parens_iff (text : String) :
    ofBlock ("(" ++ text ++ ")") = written text.toList ∧
      (ofBlock text = ofBlock ("(" ++ text ++ ")") ↔
        ¬LosesOpening text.toList ∧ ¬LosesClosing text.toList) := by
  refine ⟨ofBlock_parens text, ?_⟩
  rw [ofBlock_parens, ofBlock_eq_written, ← written_trim text.toList, LosesOpening, LosesClosing,
    ← startsWithItem_trim text.toList, ← endsWithItem_trim text.toList]
  generalize trim text.toList = block
  obtain ⟨front, back, hfront, hback, hhead, hlast, hblock⟩ := exists_eq_append_dropParens block
  rw [hhead, hlast]
  generalize dropParens block = inner at hblock ⊢
  subst hblock
  have hmargin : IsMargin front := by
    rcases hfront with rfl | rfl
    · exact fun c hc => absurd hc List.not_mem_nil
    · exact isMargin_opening
  have hmargin' : IsMargin back := by
    rcases hback with rfl | rfl
    · exact fun c hc => absurd hc List.not_mem_nil
    · exact isMargin_closing
  rw [startsWithItem_append_left hmargin, endsWithItem_append_left hmargin,
    endsWithItem_append_right hmargin']
  -- An item that loses a parenthesis makes the block shorter than it is written, whatever happens
  -- at the other end.
  have hne : totalSize inner < totalSize (front ++ (inner ++ back)) →
      written inner ≠ written (front ++ (inner ++ back)) :=
    fun hlt heq => hlt.ne (congrArg (fun items => (items.map size).sum) heq)
  rcases written_append_left_or hfront (inner ++ back) with ⟨hopen, hkeep⟩ | ⟨hopen, hlose⟩ <;>
    rcases written_append_right_or hback inner with ⟨hclose, hkeep'⟩ | ⟨hclose, hlose'⟩
  · exact iff_of_true (by rw [hopen, hclose]) ⟨hkeep, hkeep'⟩
  · have htotal : totalSize (front ++ (inner ++ back)) = totalSize (inner ++ back) :=
      congrArg (fun items => (items.map size).sum) hopen
    exact iff_of_false (hne (htotal ▸ hclose)) fun h => h.2 hlose'
  · have htotal : totalSize (inner ++ back) = totalSize inner :=
      congrArg (fun items => (items.map size).sum) hclose
    exact iff_of_false (hne (htotal ▸ hopen)) fun h => h.1 hlose
  · exact iff_of_false (hne (hclose.trans hopen)) fun h => h.1 hlose

/-- A source can have such an item: a value that ends with a call loses its parenthesis. -/
theorem ofBlock_ne_ofBlock_parens :
    Statement.ofTokens (Token.scan "@a(title: f(x))") =
        .ok [.state ⟨"a", "title:f(x)", ⟨0, 15⟩⟩] ∧
      ofBlock "title:f(x)" = [⟨"title", "f(x"⟩] ∧
      ofBlock ("(" ++ "title:f(x)" ++ ")") = [⟨"title", "f(x)"⟩] := by
  decide +kernel

end BoxArrow.Item
