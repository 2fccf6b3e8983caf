import BoxArrow.Text.Chars
import BoxArrow.Text.Quoted
import Mathlib.Data.List.Induction
import Mathlib.Data.List.TakeWhile

/-!
# Cutting and trimming longer texts

What is written before a text without quote marks and separators goes to its first part, and what is
written after it without separators goes to its last part. Blanks at the two ends are trimmed.

## Main results

* `Text.cut?_quoted_append` — quoted text goes to the first part as a whole
* `Text.splitUnquoted_append_left`, `Text.splitUnquoted_append_right` — the parts of a longer text
* `Text.trim_append_left`, `Text.trim_append_right` — blanks around a text
* `Text.exists_eq_append_trim` — trimming takes blanks only
-/

namespace BoxArrow.Text

theorem not_isQuote_of_isBlank {c : Char} (h : isBlank c = true) : ¬isQuote c = true := by
  intro hquote
  simp only [isQuote, Bool.or_eq_true, beq_iff_eq] at hquote
  rcases hquote with rfl | rfl <;> cases h

/-! ### Cutting -/

/-- A text without quote marks and separators. -/
def IsPlain (separator : Char) (text : List Char) : Prop :=
  ∀ c ∈ text, isQuote c = false ∧ c ≠ separator

variable {separator : Char} {front back : List Char}

theorem cut?_append_left (h : IsPlain separator front) (text : List Char) :
    cut? separator none (front ++ text) =
      (cut? separator none text).map (Prod.map (front ++ ·) id) := by
  induction front with
  | nil => exact (congrFun Option.map_id_fun _).symm
  | cons c front ih =>
    obtain ⟨⟨hquote, hseparator⟩, hfront⟩ := List.forall_mem_cons.1 h
    rw [List.cons_append, cut?, if_neg (by simp [hquote]), if_neg hseparator, ih hfront,
      Option.map_map]
    rfl

/-- Nothing separates inside quoted text. -/
theorem cut?_some_append {mark : Char} (h : mark ∉ front) (text : List Char) :
    cut? separator (some mark) (front ++ mark :: text) =
      (cut? separator none text).map (Prod.map ((front ++ [mark]) ++ ·) id) := by
  induction front with
  | nil =>
    rw [List.nil_append, cut?, if_pos rfl]
    rfl
  | cons c front ih =>
    obtain ⟨hc, hfront⟩ := not_or.1 (List.mem_cons.not.1 h)
    rw [List.cons_append, cut?, if_neg fun e => hc e.symm, ih hfront, Option.map_map]
    rfl

theorem cut?_quoted_append {mark : Char} (hquote : isQuote mark = true) (h : mark ∉ front)
    (text : List Char) :
    cut? separator none (mark :: (front ++ mark :: text)) =
      (cut? separator none text).map (Prod.map ((mark :: (front ++ [mark])) ++ ·) id) := by
  rw [cut?, if_pos hquote, cut?_some_append h, Option.map_map]
  rfl

theorem cut?_eq_none (h : separator ∉ back) (mode : Option Char) :
    cut? separator mode back = none := by
  -- The character that a text is cut at is one of its own.
  cases hcut : cut? separator mode back with
  | none => rfl
  | some halves =>
    obtain ⟨before, after⟩ := halves
    have hback := append_of_cut? hcut
    exact absurd (hback ▸ List.mem_append_right _ List.mem_cons_self) h

theorem cut?_append_right (h : separator ∉ back) (mode : Option Char) (text : List Char) :
    cut? separator mode (text ++ back) =
      (cut? separator mode text).map (Prod.map id (· ++ back)) := by
  fun_induction cut? separator mode text with
  | case1 mode => exact cut?_eq_none h mode
  | case2 mark c text ih =>
    rw [List.cons_append, cut?, ih, Option.map_map, Option.map_map]
    rfl
  | case3 c text hquote ih =>
    rw [List.cons_append, cut?, if_pos hquote, ih, Option.map_map, Option.map_map]
    rfl
  | case4 text hquote =>
    rw [List.cons_append, cut?, if_neg hquote, if_pos rfl]
    rfl
  | case5 c text hquote hseparator ih =>
    rw [List.cons_append, cut?, if_neg hquote, if_neg hseparator, ih, Option.map_map,
      Option.map_map]
    rfl

theorem splitUnquoted_of_eq_none {text : List Char} (h : cut? separator none text = none) :
    splitUnquoted separator text = [text] := by
  rw [splitUnquoted]
  split
  · rfl
  · rename_i hcut
    cases h.symm.trans hcut

theorem splitUnquoted_of_eq_some {text before after : List Char}
    (h : cut? separator none text = some (before, after)) :
    splitUnquoted separator text = before :: splitUnquoted separator after := by
  rw [splitUnquoted]
  split
  · rename_i hcut
    cases h.symm.trans hcut
  · rename_i hcut
    cases h.symm.trans hcut
    rfl

/-- What stands before a text goes to its first part. -/
theorem splitUnquoted_append_left (h : IsPlain separator front) (text : List Char) :
    ∃ first rest, splitUnquoted separator text = first :: rest ∧
      splitUnquoted separator (front ++ text) = (front ++ first) :: rest := by
  have hcut := cut?_append_left h text
  cases hhalves : cut? separator none text with
  | none =>
    rw [hhalves] at hcut
    exact ⟨text, [], splitUnquoted_of_eq_none hhalves, splitUnquoted_of_eq_none hcut⟩
  | some halves =>
    rw [hhalves] at hcut
    exact ⟨halves.1, splitUnquoted separator halves.2, splitUnquoted_of_eq_some hhalves,
      splitUnquoted_of_eq_some hcut⟩

/-- What stands after a text goes to its last part. -/
theorem splitUnquoted_append_right (h : separator ∉ back) (text : List Char) :
    ∃ parts last, splitUnquoted separator text = parts ++ [last] ∧
      splitUnquoted separator (text ++ back) = parts ++ [last ++ back] := by
  -- The induction is on the cuts, which are the same in the longer text.
  fun_induction splitUnquoted separator text with
  | case1 text hhalves =>
    have hcut := cut?_append_right h none text
    rw [hhalves] at hcut
    exact ⟨[], text, rfl, splitUnquoted_of_eq_none hcut⟩
  | case2 text before after hhalves ih =>
    have hcut := cut?_append_right h none text
    rw [hhalves] at hcut
    obtain ⟨parts, last, hsplit, hsplit'⟩ := ih
    refine ⟨before :: parts, last, ?_, ?_⟩
    · rw [hsplit, List.cons_append]
    · rw [splitUnquoted_of_eq_some hcut, id, hsplit', List.cons_append]

/-! ### Trimming -/

/-- A text of blanks. -/
def IsBlanks (text : List Char) : Prop := ∀ c ∈ text, isBlank c = true

theorem trim_append_left (h : IsBlanks front) (text : List Char) :
    trim (front ++ text) = trim text := by
  rw [trim, trimLeft, List.dropWhile_append_of_pos h]
  rfl

theorem trimRight_append_right (h : IsBlanks back) (text : List Char) :
    trimRight (text ++ back) = trimRight text := by
  rw [trimRight, List.reverse_append,
    List.dropWhile_append_of_pos fun c hc => h c (List.mem_reverse.1 hc)]
  rfl

theorem trim_append_right (h : IsBlanks back) (text : List Char) :
    trim (text ++ back) = trim text := by
  rw [trim, trimLeft, List.dropWhile_append]
  split
  -- A text of blanks stays one, and nothing of it is left.
  · rename_i hempty
    rw [List.dropWhile_eq_nil_iff.2 h, trim, trimLeft, List.isEmpty_iff.1 hempty]
  · exact trimRight_append_right h _

theorem trimLeft_append_singleton {c : Char} (h : isBlank c = false) (text : List Char) :
    trimLeft (text ++ [c]) = trimLeft text ++ [c] := by
  have hself : [c].dropWhile isBlank = [c] := List.dropWhile_cons_of_neg (by simp [h])
  rw [trimLeft, List.dropWhile_append]
  split
  · rename_i hempty
    rw [hself, trimLeft, List.isEmpty_iff.1 hempty, List.nil_append]
  · rfl

theorem trimRight_cons {c : Char} (h : isBlank c = false) (text : List Char) :
    trimRight (c :: text) = c :: trimRight text := by
  have hreverse := trimLeft_append_singleton h text.reverse
  rw [trimLeft, ← List.reverse_cons] at hreverse
  rw [trimRight, hreverse, List.reverse_append]
  rfl

theorem trim_cons {c : Char} (h : isBlank c = false) (text : List Char) :
    trim (c :: text) = c :: trimRight text := by
  rw [trim, trimLeft, List.dropWhile_cons_of_neg (by simp [h]), trimRight_cons h]

theorem trim_append_singleton {c : Char} (h : isBlank c = false) (text : List Char) :
    trim (text ++ [c]) = trimLeft text ++ [c] := by
  have hself : ([c] ++ (trimLeft text).reverse).dropWhile isBlank = c :: (trimLeft text).reverse :=
    List.dropWhile_cons_of_neg (by simp [h])
  rw [trim, trimLeft_append_singleton h, trimRight, List.reverse_append, List.reverse_singleton,
    hself, List.reverse_cons, List.reverse_reverse]

/-- A text that starts and ends with no blank stays as it is. -/
theorem trim_eq_self {text : List Char} (hhead : ∀ c ∈ text.head?, isBlank c = false)
    (hlast : ∀ c ∈ text.getLast?, isBlank c = false) : trim text = text := by
  cases text using List.reverseRecOn with
  | nil => rfl
  | append_singleton text c =>
    rw [trim_append_singleton (hlast c (by simp))]
    cases text with
    | nil => rfl
    | cons d text =>
      rw [trimLeft, List.dropWhile_cons_of_neg (by simp [hhead d rfl])]

theorem length_trim_le_trimLeft (text : List Char) :
    (trim text).length ≤ (trimLeft text).length := by
  have hle : ((trimLeft text).reverse.dropWhile isBlank).length ≤ (trimLeft text).reverse.length :=
    (List.dropWhile_suffix isBlank).length_le
  rw [List.length_reverse] at hle
  rwa [trim, trimRight, List.length_reverse]

theorem length_trim_le_trimRight (text : List Char) :
    (trim text).length ≤ (trimRight text).length := by
  -- From the end, the blanks that stand first are the last to be seen.
  have htext : text.reverse = (trimLeft text).reverse ++ (text.takeWhile isBlank).reverse := by
    rw [← List.reverse_append]
    exact congrArg List.reverse List.takeWhile_append_dropWhile.symm
  rw [trim, trimRight, trimRight, htext, List.dropWhile_append, List.length_reverse,
    List.length_reverse]
  split
  · rename_i hempty
    rw [List.isEmpty_iff.1 hempty]
    exact Nat.zero_le _
  · rw [List.length_append]
    exact Nat.le_add_right _ _

/-- Trimming takes blanks only. -/
theorem exists_eq_append_trim (text : List Char) :
    ∃ front back, IsBlanks front ∧ IsBlanks back ∧ text = front ++ trim text ++ back := by
  have hblanks : ∀ text : List Char, IsBlanks (text.takeWhile isBlank) := fun text =>
    List.all_eq_true.1 List.all_takeWhile
  refine ⟨text.takeWhile isBlank, ((trimLeft text).reverse.takeWhile isBlank).reverse, hblanks _,
    fun c hc => hblanks _ c (List.mem_reverse.1 hc), ?_⟩
  have hright : trimLeft text =
      trim text ++ ((trimLeft text).reverse.takeWhile isBlank).reverse := by
    rw [trim, trimRight, ← List.reverse_append, List.takeWhile_append_dropWhile,
      List.reverse_reverse]
  rw [List.append_assoc, ← hright]
  exact List.takeWhile_append_dropWhile.symm

end BoxArrow.Text
