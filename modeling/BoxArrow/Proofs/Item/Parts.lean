import BoxArrow.Proofs.Text.Split
import BoxArrow.Proofs.Token.Places
import BoxArrow.Proofs.Token.Slice

/-!
# Parts of a text

A text is split by looking for a separator outside quoted text, and then again behind it, as if a
new text started there. What has been seen before the separator is forgotten, but nothing depends
on it: a separator that is found stands outside quoted text, so a look at the rest alone and a look
at the whole text find the same separators. The parts and their separators make up the text.

## Main definitions

* `Text.IsCutAt` — a separator that stands outside quoted text in view of all that is before it
* `Text.partSpans` — the bytes that parts take, with a separator between each two

## Main results

* `Text.splitUnquoted_induction` — a text is split at its first separator, and so is what is behind
* `Text.isCutAt_append_iff` — a look at the rest behind a separator finds what is left to find
* `Text.splitUnquoted_cuts` — a text is split where one look at the whole of it finds separators
-/

namespace BoxArrow.Text

/-- A separator stands at a byte of a text, and the text before it ends outside quoted text. -/
def IsCutAt (separator : Char) (text : List Char) (offset : Nat) : Prop :=
  ∃ before after, text = before ++ separator :: after ∧ modeAfter none before = none ∧
    byteLength before = offset

/-- The bytes that parts take which stand one behind the other, from a byte on, with a separator
between each two. -/
def partSpans (separator : Char) : Nat → List (List Char) → List Span
  | _, [] => []
  | start, part :: parts =>
    ⟨start, start + byteLength part⟩ ::
      partSpans separator (start + byteLength part + separator.utf8Size) parts

variable {separator mark : Char} {mode : Option Char} {text front back before after : List Char}
  {offset : Nat}

/-! ### One cut -/

/-- A separator that is found stands outside quoted text. -/
theorem modeAfter_of_cut? (h : cut? separator mode text = some (before, after)) :
    modeAfter mode before = none := by
  -- A step of the search is one in quoted text, at a mark, at the separator or at anything else.
  fun_induction cut? separator mode text generalizing before with
  | case1 => cases h
  | case2 mark c text ih =>
    obtain ⟨⟨before', after'⟩, h', e⟩ := Option.map_eq_some_iff.1 h
    cases e
    exact ih h'
  | case3 c text hquote ih =>
    obtain ⟨⟨before', after'⟩, h', e⟩ := Option.map_eq_some_iff.1 h
    cases e
    change modeAfter none (c :: before') = none
    rw [modeAfter, if_pos hquote, ih h']
  | case4 => cases h; rfl
  | case5 c text hquote _ ih =>
    obtain ⟨⟨before', after'⟩, h', e⟩ := Option.map_eq_some_iff.1 h
    cases e
    change modeAfter none (c :: before') = none
    rw [modeAfter, if_neg hquote, ih h']

/-- No other separator is found before it. -/
theorem cut?_of_cut? (h : cut? separator mode text = some (before, after)) :
    cut? separator mode before = none := by
  fun_induction cut? separator mode text generalizing before with
  | case1 => cases h
  | case2 mark c text ih =>
    obtain ⟨⟨before', after'⟩, h', e⟩ := Option.map_eq_some_iff.1 h
    cases e
    change cut? separator (some mark) (c :: before') = none
    rw [cut?, ih h', Option.map_none]
  | case3 c text hquote ih =>
    obtain ⟨⟨before', after'⟩, h', e⟩ := Option.map_eq_some_iff.1 h
    cases e
    change cut? separator none (c :: before') = none
    rw [cut?, if_pos hquote, ih h', Option.map_none]
  | case4 => cases h; rfl
  | case5 c text hquote hseparator ih =>
    obtain ⟨⟨before', after'⟩, h', e⟩ := Option.map_eq_some_iff.1 h
    cases e
    change cut? separator none (c :: before') = none
    rw [cut?, if_neg hquote, if_neg hseparator, ih h', Option.map_none]

/-- A separator outside quoted text is found, or one before it is. -/
theorem cut?_ne_none (hseparator : isQuote separator = false) (h : modeAfter mode before = none)
    (after : List Char) : cut? separator mode (before ++ separator :: after) ≠ none := by
  fun_induction modeAfter mode before with
  | case1 mode =>
    subst h
    rw [List.nil_append, cut?, if_neg (by simp [hseparator]), if_pos rfl]
    exact Option.some_ne_none _
  | case2 mark c before ih =>
    rw [List.cons_append, cut?, ne_eq, Option.map_eq_none_iff]
    exact ih h
  | case3 c before ih =>
    rw [List.cons_append, cut?]
    have hrest := ih h
    split <;> rename_i hquote
    · rw [if_pos hquote] at hrest
      rwa [ne_eq, Option.map_eq_none_iff]
    · rw [if_neg hquote] at hrest
      split
      · exact Option.some_ne_none _
      · rwa [ne_eq, Option.map_eq_none_iff]

theorem not_isCutAt_of_cut? (hseparator : isQuote separator = false)
    (h : cut? separator none text = none) (offset : Nat) : ¬ IsCutAt separator text offset := by
  rintro ⟨before, after, rfl, hmode, -⟩
  exact cut?_ne_none hseparator hmode after h

/-! ### All cuts -/

theorem splitUnquoted_ne_nil (separator : Char) (text : List Char) :
    splitUnquoted separator text ≠ [] := by
  cases hcut : cut? separator none text with
  | none =>
    rw [splitUnquoted_of_eq_none hcut]
    exact List.cons_ne_nil _ _
  | some halves =>
    rw [splitUnquoted_of_eq_some hcut]
    exact List.cons_ne_nil _ _

/-- A text is a last part, or it is split at its first separator and so is what stands behind. -/
theorem splitUnquoted_induction (hseparator : isQuote separator = false)
    {motive : List Char → List (List Char) → Prop}
    (last : ∀ text, (∀ offset, ¬ IsCutAt separator text offset) → motive text [text])
    (cut : ∀ before after, (∀ offset, ¬ IsCutAt separator before offset) →
      modeAfter none before = none → motive after (splitUnquoted separator after) →
        motive (before ++ separator :: after) (before :: splitUnquoted separator after))
    (text : List Char) : motive text (splitUnquoted separator text) := by
  fun_induction splitUnquoted separator text with
  | case1 text hcut => exact last text (not_isCutAt_of_cut? hseparator hcut)
  | case2 text before after hcut ih =>
    rw [append_of_cut? hcut]
    exact cut before after (not_isCutAt_of_cut? hseparator (cut?_of_cut? hcut))
      (modeAfter_of_cut? hcut) ih

/-- Behind a separator outside quoted text, the look at the whole text finds what a look at the
rest alone finds. -/
theorem isCutAt_append_iff (hseparator : isQuote separator = false)
    (hbefore : ∀ offset, ¬ IsCutAt separator before offset) (hmode : modeAfter none before = none) :
    IsCutAt separator (before ++ separator :: after) offset ↔
      offset = byteLength before ∨
        ∃ offset', IsCutAt separator after offset' ∧
          offset = byteLength before + separator.utf8Size + offset' := by
  -- The look at the whole text is behind the separator in the mode in which a new one starts.
  have hopen (text : List Char) :
      modeAfter none (before ++ separator :: text) = modeAfter none text := by
    rw [modeAfter_append, hmode, modeAfter, if_neg (by simp [hseparator])]
  constructor
  · rintro ⟨front, back, htext, hfront, rfl⟩
    rcases List.append_eq_append_iff.1 htext with ⟨more, rfl, hrest⟩ | ⟨more, rfl, hrest⟩
    · cases more with
      | nil => exact .inl (by rw [List.append_nil])
      | cons c more =>
        obtain ⟨rfl, rfl⟩ := List.cons.inj hrest
        refine .inr ⟨_, ⟨more, back, rfl, (hopen more).symm.trans hfront, rfl⟩, ?_⟩
        rw [byteLength_append, byteLength_cons, Nat.add_assoc]
    · cases more with
      | nil => exact .inl (by rw [List.append_nil])
      | cons c more =>
        -- A separator further to the left would be one of the first part.
        obtain ⟨rfl, -⟩ := List.cons.inj hrest
        exact absurd ⟨front, more, rfl, hfront, rfl⟩ (hbefore (byteLength front))
  · rintro (rfl | ⟨_, ⟨front, back, rfl, hfront, rfl⟩, rfl⟩)
    · exact ⟨before, after, rfl, hmode, rfl⟩
    · refine ⟨before ++ separator :: front, back, ?_, (hopen front).trans hfront, ?_⟩
      · rw [List.append_assoc, List.cons_append]
      · rw [byteLength_append, byteLength_cons, Nat.add_assoc]

/-- No separator stands behind the mark of quoted text that is not closed. -/
theorem IsCutAt.lt_of_unclosed (h : IsCutAt separator (front ++ mark :: back) offset)
    (hseparator : isQuote separator = false) (hfront : modeAfter none front = none)
    (hmark : isQuote mark = true) (hback : mark ∉ back) : offset < byteLength front := by
  obtain ⟨before, after, htext, hmode, rfl⟩ := h
  have hne : mark ≠ separator := by
    rintro rfl
    exact absurd hmark (by simp [hseparator])
  rcases List.append_eq_append_iff.1 htext with ⟨more, rfl, hrest⟩ | ⟨more, rfl, hrest⟩
  · cases more with
    | nil => exact absurd (List.cons.inj hrest).1 hne
    | cons c more =>
      -- The mark is still open before the separator.
      obtain ⟨rfl, rfl⟩ := List.cons.inj hrest
      have hmore : mark ∉ more := fun hmem => hback (List.mem_append_left _ hmem)
      rw [modeAfter_append, hfront, modeAfter, if_pos hmark, modeAfter_content hmore] at hmode
      cases hmode
  · cases more with
    | nil => exact absurd (List.cons.inj hrest).1.symm hne
    | cons c more =>
      have hpos := byteLength_pos (List.cons_ne_nil c more)
      rw [byteLength_append]
      omega

section Parts

variable (hseparator : isQuote separator = false)
include hseparator

/-- The parts, with the separators between them, make up the text. -/
theorem intercalate_splitUnquoted (text : List Char) :
    [separator].intercalate (splitUnquoted separator text) = text := by
  induction text using splitUnquoted_induction hseparator with
  | last text _ => exact List.intercalate_singleton
  | cut before after _ _ ih =>
    rw [List.intercalate_cons_of_ne_nil (splitUnquoted_ne_nil separator after), ih,
      List.append_assoc, List.singleton_append]

/-- All parts but the last end where separators stand outside quoted text. -/
theorem mem_stops_iff (start offset : Nat) (text : List Char) :
    offset ∈ (partSpans separator start (splitUnquoted separator text)).dropLast.map Span.stop ↔
      ∃ offset', IsCutAt separator text offset' ∧ offset = start + offset' := by
  induction text using splitUnquoted_induction hseparator generalizing start with
  | last text hnone =>
    refine ⟨fun h => absurd h List.not_mem_nil, ?_⟩
    rintro ⟨offset', hcut, -⟩
    exact absurd hcut (hnone offset')
  | cut before after hbefore hmode ih =>
    -- The part before a cut is never the last one, so its end is among those that count.
    have hne : partSpans separator (start + byteLength before + separator.utf8Size)
        (splitUnquoted separator after) ≠ [] := by
      obtain ⟨part, parts, hparts⟩ :=
        List.exists_cons_of_ne_nil (splitUnquoted_ne_nil separator after)
      rw [hparts]
      exact List.cons_ne_nil _ _
    rw [partSpans, List.dropLast_cons_of_ne_nil hne, List.map_cons, List.mem_cons, ih]
    simp only [isCutAt_append_iff hseparator hbefore hmode]
    constructor
    · rintro (rfl | ⟨offset', hcut, rfl⟩)
      · exact ⟨_, .inl rfl, rfl⟩
      · exact ⟨_, .inr ⟨offset', hcut, rfl⟩, by omega⟩
    · rintro ⟨offset', rfl | ⟨offset'', hcut, rfl⟩, rfl⟩
      · exact .inl rfl
      · exact .inr ⟨offset'', hcut, by omega⟩

theorem modeAfter_of_mem_dropLast (text : List Char) :
    ∀ part ∈ (splitUnquoted separator text).dropLast, modeAfter none part = none := by
  induction text using splitUnquoted_induction hseparator with
  | last text _ => exact fun _ h => absurd h List.not_mem_nil
  | cut before after _ hmode ih =>
    rw [List.dropLast_cons_of_ne_nil (splitUnquoted_ne_nil separator after)]
    exact List.forall_mem_cons.2 ⟨hmode, ih⟩

theorem not_isCutAt_of_mem (text : List Char) :
    ∀ part ∈ splitUnquoted separator text, ∀ offset, ¬ IsCutAt separator part offset := by
  induction text using splitUnquoted_induction hseparator with
  | last text hnone => exact List.forall_mem_singleton.2 hnone
  | cut before after hbefore _ ih => exact List.forall_mem_cons.2 ⟨hbefore, ih⟩

/-- The bytes of the parts are those that their spans stand for, and no character lies across the
end of a span. -/
theorem covers_partSpans (front text : List Char) :
    List.Forall₂ (fun span part => span.Covers (.ofList (front ++ text)) (.ofList part))
      (partSpans separator (byteLength front) (splitUnquoted separator text))
      (splitUnquoted separator text) := by
  have hcovers (front part back : List Char) :
      (Span.mk (byteLength front) (byteLength front + byteLength part)).Covers
        (.ofList (front ++ part ++ back)) (.ofList part) := by
    refine ⟨.ofList front, .ofList back, ?_, ?_⟩
    · rw [String.ofList_append, String.ofList_append]
    · rw [utf8ByteSize_ofList, utf8ByteSize_ofList]
  induction text using splitUnquoted_induction hseparator generalizing front with
  | last text _ =>
    have htext := hcovers front text []
    rw [List.append_nil] at htext
    exact .cons htext .nil
  | cut before after _ _ ih =>
    have hrest := ih (front ++ before ++ [separator])
    rw [List.append_assoc (front ++ before), List.singleton_append, List.append_assoc front,
      byteLength_append, byteLength_append, byteLength_cons, byteLength_nil, Nat.add_zero] at hrest
    refine .cons ?_ hrest
    rw [← List.append_assoc]
    exact hcovers front before (separator :: after)

end Parts

/-- A text is split where one look at the whole of it, from left to right, finds the separator
outside quoted text. The parts and the separators between them make up the text, all parts but the
last end outside quoted text, no part has another such separator, quoted text that is not closed
hides all separators behind its mark, and no character lies across the bytes at which it is cut. -/
theorem splitUnquoted_cuts (hseparator : isQuote separator = false) (text : String) :
    let parts := splitUnquoted separator text.toList
    let spans := partSpans separator 0 parts
    [separator].intercalate parts = text.toList ∧
    (∀ offset, IsCutAt separator text.toList offset ↔ offset ∈ spans.dropLast.map Span.stop) ∧
    (∀ part ∈ parts.dropLast, modeAfter none part = none) ∧
    (∀ part ∈ parts, ∀ offset, ¬ IsCutAt separator part offset) ∧
    (∀ front mark back, text.toList = front ++ mark :: back → modeAfter none front = none →
      isQuote mark = true → mark ∉ back →
        ∀ offset, IsCutAt separator text.toList offset → offset < byteLength front) ∧
    List.Forall₂ (fun span part => span.Covers text (.ofList part)) spans parts := by
  intro parts spans
  refine ⟨intercalate_splitUnquoted hseparator _, fun offset => ?_,
    modeAfter_of_mem_dropLast hseparator _, not_isCutAt_of_mem hseparator _, ?_, ?_⟩
  · rw [mem_stops_iff hseparator]
    simp only [Nat.zero_add, exists_eq_right']
  · intro front mark back htext hfront hmark hback offset hcut
    rw [htext] at hcut
    exact hcut.lt_of_unclosed hseparator hfront hmark hback
  · have hcovers := covers_partSpans hseparator [] text.toList
    rw [List.nil_append, String.ofList_toList] at hcovers
    exact hcovers

/-- Both kinds of quoted text, one mark inside the other, characters of two bytes, and a mark that
nothing closes. -/
theorem splitUnquoted_cuts_unclosed :
    ∃ parts spans, splitUnquoted ',' "é,'a,\"b',\"x,'ü".toList = parts ∧
      parts = [['é'], ['\'', 'a', ',', '"', 'b', '\''], ['"', 'x', ',', '\'', 'ü']] ∧
      spans = partSpans ',' 0 parts ∧ spans = [⟨0, 2⟩, ⟨3, 9⟩, ⟨10, 16⟩] ∧
      isQuote ',' = false ∧ [','].intercalate parts = "é,'a,\"b',\"x,'ü".toList ∧
      (∀ offset, IsCutAt ',' "é,'a,\"b',\"x,'ü".toList offset ↔
        offset ∈ spans.dropLast.map Span.stop) ∧
      (∀ part ∈ parts.dropLast, modeAfter none part = none) ∧
      (∀ part ∈ parts, ∀ offset, ¬ IsCutAt ',' part offset) ∧
      (∀ front mark back, "é,'a,\"b',\"x,'ü".toList = front ++ mark :: back →
        modeAfter none front = none → isQuote mark = true → mark ∉ back →
          ∀ offset, IsCutAt ',' "é,'a,\"b',\"x,'ü".toList offset → offset < byteLength front) ∧
      List.Forall₂ (fun span part => span.Covers "é,'a,\"b',\"x,'ü" (.ofList part)) spans parts :=
  ⟨_, _, rfl, by decide +kernel, rfl, by decide +kernel, by decide,
    splitUnquoted_cuts (by decide) _⟩

end BoxArrow.Text
