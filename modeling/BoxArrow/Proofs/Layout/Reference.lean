import BoxArrow.Layout.Tie
import BoxArrow.Proofs.OrderedMap

/-!
# What a reference asks for

A reference is an identifier, a dot and a keyword. The last dot separates the two, so that
identifiers with dots in them can be referred to, and the last figure with the identifier is meant.

## Main definitions

* `Reference.Asks` — a reference asks for an alignment with a target
* `Forest.IsLast` — the last figure that bears an identifier

## Main results

* `Tie.ofReference_cases` — a reference is refused, or its target is not known, or it is followed
* `Tie.ofReference_eq_ok_iff` — a tie is what the reference asks for
* `Forest.get?_lastIndex_eq_some_iff_isLast` — the index finds the last figures
-/

namespace BoxArrow

/-- A reference asks for an alignment with a target: it is written as the identifier of the target,
a dot, and a keyword that names the alignment on the axis. -/
def Reference.Asks (reference : Reference) (axis : Axis) (target : String)
    (alignment : Alignment) : Prop :=
  target ≠ "" ∧ ∃ keyword : String, reference.text = target ++ "." ++ keyword ∧
    '.' ∉ keyword.toList ∧ Alignment.ofKeyword axis keyword = some alignment

namespace Tie

variable {axis : Axis} {index : OrderedMap Nat} {reference : Reference} {tie : Tie}
  {target target' : String} {alignment alignment' : Alignment} {text before after : List Char}

theorem splitLastDot?_append (h : '.' ∉ after) :
    splitLastDot? (before ++ '.' :: after) = some (before, after) := by
  have hpos : ∀ c ∈ after.reverse, (decide (c ≠ '.')) = true := by
    intro c hc
    rw [decide_eq_true_iff]
    rintro rfl
    exact h (List.mem_reverse.1 hc)
  have hreverse : (before ++ '.' :: after).reverse = after.reverse ++ '.' :: before.reverse := by
    simp
  rw [splitLastDot?, hreverse, List.dropWhile_append_of_pos hpos,
    List.takeWhile_append_of_pos hpos]
  simp

/-- A text is split at its last dot. -/
theorem splitLastDot?_eq_some_iff :
    splitLastDot? text = some (before, after) ↔ text = before ++ '.' :: after ∧ '.' ∉ after := by
  constructor
  · intro h
    unfold splitLastDot? at h
    split at h
    · cases h
    · rename_i c rest hdrop
      cases h
      have hsplit := List.takeWhile_append_dropWhile (p := (· ≠ '.')) (l := text.reverse)
      have hdot := List.head?_dropWhile_not (· ≠ '.') text.reverse
      rw [hdrop] at hsplit hdot
      have hc : c = '.' := by simpa using hdot
      constructor
      · have htext := congrArg List.reverse hsplit
        rw [List.reverse_append, List.reverse_cons, List.reverse_reverse, hc] at htext
        simpa using htext.symm
      · intro hmem
        have hne := List.all_eq_true.1 List.all_takeWhile _ (List.mem_reverse.1 hmem)
        simp at hne
  · rintro ⟨rfl, h⟩
    exact splitLastDot?_append h

/-- What a reference asks for stands before and after its last dot. -/
theorem asks_iff :
    reference.Asks axis target alignment ↔
      ∃ keyword, splitLastDot? reference.text.toList = some (target.toList, keyword) ∧
        target.toList ≠ [] ∧ Alignment.ofKeyword axis (.ofList keyword) = some alignment := by
  have hempty : target ≠ "" ↔ target.toList ≠ [] := by
    rw [ne_eq, ne_eq, String.toList_eq_nil_iff]
  have htext : ∀ keyword : String, reference.text = target ++ "." ++ keyword ↔
      reference.text.toList = target.toList ++ '.' :: keyword.toList := by
    intro keyword
    rw [← String.toList_inj]
    simp
  unfold Reference.Asks
  rw [hempty]
  constructor
  · rintro ⟨hne, keyword, heq, hdot, hkeyword⟩
    refine ⟨keyword.toList, splitLastDot?_eq_some_iff.2 ⟨(htext keyword).1 heq, hdot⟩, hne, ?_⟩
    rw [String.ofList_toList]
    exact hkeyword
  · rintro ⟨keyword, hsplit, hne, hkeyword⟩
    obtain ⟨heq, hdot⟩ := splitLastDot?_eq_some_iff.1 hsplit
    refine ⟨hne, .ofList keyword, (htext _).2 ?_, ?_, hkeyword⟩
    · rw [String.toList_ofList, heq]
    · rw [String.toList_ofList]
      exact hdot

/-- A reference asks for one thing at most. -/
theorem asks_unique (h : reference.Asks axis target alignment)
    (h' : reference.Asks axis target' alignment') : target = target' ∧ alignment = alignment' := by
  obtain ⟨keyword, hsplit, -, hkeyword⟩ := asks_iff.1 h
  obtain ⟨keyword', hsplit', -, hkeyword'⟩ := asks_iff.1 h'
  obtain ⟨htarget, rfl⟩ := Prod.mk.inj (Option.some.inj (hsplit.symm.trans hsplit'))
  exact ⟨String.toList_inj.1 htarget, Option.some.inj (hkeyword.symm.trans hkeyword')⟩

/-- A reference that asks for something is followed if the index knows the target. -/
theorem ofReference_of_asks (h : reference.Asks axis target alignment) :
    ofReference axis index reference =
      match index.get? target with
      | none => .error (.unknownTarget target reference.block)
      | some i => .ok ⟨i, alignment⟩ := by
  obtain ⟨keyword, hsplit, hne, hkeyword⟩ := asks_iff.1 h
  obtain ⟨c, rest, hcons⟩ := List.exists_cons_of_ne_nil hne
  have htarget : String.ofList (c :: rest) = target := by
    rw [← hcons, String.ofList_toList]
  rw [hcons] at hsplit
  unfold ofReference
  rw [hsplit]
  dsimp only
  rw [htarget, hkeyword]
  cases index.get? target <;> rfl

/-- A reference that asks for nothing is refused, as malformed or for its keyword. -/
theorem ofReference_of_not_asks (index : OrderedMap Nat)
    (h : ∀ target alignment, ¬ reference.Asks axis target alignment) :
    ∃ w, ofReference axis index reference = .error w ∧ w.code = .unsupportedAlignment ∧
      w.place = reference.block := by
  unfold ofReference
  split
  · exact ⟨_, rfl, rfl, rfl⟩
  · exact ⟨_, rfl, rfl, rfl⟩
  · rename_i target keyword hne hsplit
    have hkeyword : Alignment.ofKeyword axis (.ofList keyword) = none := by
      rw [Option.eq_none_iff_forall_ne_some]
      intro alignment hkeyword
      apply h (.ofList target) alignment
      rw [asks_iff, String.toList_ofList]
      exact ⟨keyword, hsplit, hne, hkeyword⟩
    dsimp only
    rw [hkeyword]
    exact ⟨_, rfl, rfl, rfl⟩

/-- A reference is refused, or its target is not known, or it is followed. -/
theorem ofReference_cases (axis : Axis) (index : OrderedMap Nat) (reference : Reference) :
    (∃ w, ofReference axis index reference = .error w ∧ w.place = reference.block ∧
        ∀ target alignment, ¬ reference.Asks axis target alignment) ∨
      (∃ target alignment, reference.Asks axis target alignment ∧ index.get? target = none ∧
        ofReference axis index reference = .error (.unknownTarget target reference.block)) ∨
      ∃ target alignment i, reference.Asks axis target alignment ∧ index.get? target = some i ∧
        ofReference axis index reference = .ok ⟨i, alignment⟩ := by
  by_cases hasks : ∃ target alignment, reference.Asks axis target alignment
  · obtain ⟨target, alignment, hasks⟩ := hasks
    have hrequest : ofReference axis index reference = _ := ofReference_of_asks hasks
    refine .inr ?_
    cases hget : index.get? target with
    | none => exact .inl ⟨target, alignment, hasks, hget, by rw [hrequest, hget]⟩
    | some i => exact .inr ⟨target, alignment, i, hasks, hget, by rw [hrequest, hget]⟩
  · have hnone : ∀ target alignment, ¬ reference.Asks axis target alignment :=
      fun target alignment h => hasks ⟨target, alignment, h⟩
    obtain ⟨w, hw, -, hplace⟩ := ofReference_of_not_asks index hnone
    exact .inl ⟨w, hw, hplace, hnone⟩

/-- The warning about a reference that is not followed is about its block. -/
theorem place_of_ofReference_eq_error {w : Warning}
    (h : ofReference axis index reference = .error w) : w.place = reference.block := by
  rcases ofReference_cases axis index reference with
    ⟨w', hw, hplace, -⟩ | ⟨target, -, -, -, hw⟩ | ⟨_, _, i, -, -, hok⟩
  · cases hw.symm.trans h
    exact hplace
  · cases hw.symm.trans h
    rfl
  · cases hok.symm.trans h

/-- A tie is what the reference asks for. -/
theorem ofReference_eq_ok_iff :
    ofReference axis index reference = .ok tie ↔
      ∃ target, reference.Asks axis target tie.alignment ∧ index.get? target = some tie.target := by
  constructor
  · intro h
    rcases ofReference_cases axis index reference with
      ⟨w, hw, -⟩ | ⟨_, _, -, -, hw⟩ | ⟨target, alignment, i, hasks, hget, hok⟩
    · cases hw.symm.trans h
    · cases hw.symm.trans h
    · cases hok.symm.trans h
      exact ⟨target, hasks, hget⟩
  · rintro ⟨target, hasks, hget⟩
    rw [ofReference_of_asks hasks, hget]

end Tie

namespace Forest

/-- The last figure that bears an identifier. -/
def IsLast (forest : Forest) (id : String) (i : Nat) : Prop :=
  (∃ figure, forest[i]? = some figure ∧ figure.id = id) ∧
    ∀ j figure, forest[j]? = some figure → figure.id = id → j ≤ i

variable {forest : Forest} {id : String} {i j : Nat}

theorem IsLast.unique (h : forest.IsLast id i) (h' : forest.IsLast id j) : i = j := by
  obtain ⟨⟨figure, hi, hid⟩, hlast⟩ := h
  obtain ⟨⟨figure', hj, hid'⟩, hlast'⟩ := h'
  exact Nat.le_antisymm (hlast' i figure hi hid) (hlast j figure' hj hid')

theorem IsLast.lt_length (h : forest.IsLast id i) : i < forest.length := by
  obtain ⟨⟨figure, hi, -⟩, -⟩ := h
  exact (List.getElem?_eq_some_iff.1 hi).1

/-- A figure that is added last is the last one that bears its identifier. -/
theorem get?_lastIndex_concat (forest : Forest) (figure : Figure) (id : String) :
    (lastIndex (forest ++ [figure])).get? id =
      if figure.id = id then some forest.length else forest.lastIndex.get? id := by
  have hinsert : lastIndex (forest ++ [figure]) =
      forest.lastIndex.insert figure.id forest.length := by
    unfold lastIndex
    rw [List.map_append, List.zipIdx_append]
    simp [OrderedMap.ofList]
  rw [hinsert, OrderedMap.get?_insert]

theorem isLast_of_get?_lastIndex (h : forest.lastIndex.get? id = some i) :
    forest.IsLast id i := by
  induction forest using List.reverseRecOn with
  | nil => cases h
  | append_singleton forest figure ih =>
    rw [get?_lastIndex_concat] at h
    by_cases hid : figure.id = id
    · rw [if_pos hid] at h
      cases h
      refine ⟨⟨figure, List.getElem?_concat_length, hid⟩, fun j figure' hj _ => ?_⟩
      have hlt := (List.getElem?_eq_some_iff.1 hj).1
      rw [List.length_append, List.length_singleton] at hlt
      exact Nat.le_of_lt_succ hlt
    · rw [if_neg hid] at h
      obtain ⟨⟨figure', hi, hid'⟩, hlast⟩ := ih h
      have hlt := (List.getElem?_eq_some_iff.1 hi).1
      refine ⟨⟨figure', by rw [List.getElem?_append_left hlt, hi], hid'⟩, ?_⟩
      intro j figure'' hj hid''
      by_cases hjlt : j < forest.length
      · rw [List.getElem?_append_left hjlt] at hj
        exact hlast j figure'' hj hid''
      · have hmem : j = forest.length := by
          have hlt' := (List.getElem?_eq_some_iff.1 hj).1
          rw [List.length_append, List.length_singleton] at hlt'
          omega
        rw [hmem, List.getElem?_concat_length] at hj
        cases hj
        exact absurd hid'' hid

theorem get?_lastIndex_eq_none_iff :
    forest.lastIndex.get? id = none ↔ ∀ figure ∈ forest, figure.id ≠ id := by
  induction forest using List.reverseRecOn with
  | nil => exact iff_of_true rfl (by simp)
  | append_singleton forest figure ih =>
    rw [get?_lastIndex_concat]
    by_cases hid : figure.id = id
    · rw [if_pos hid]
      exact iff_of_false (by simp) fun h => h figure (by simp) hid
    · rw [if_neg hid, ih]
      simp [or_imp, forall_and, hid]

/-- The index finds the last figures that bear the identifiers. -/
theorem get?_lastIndex_eq_some_iff_isLast :
    forest.lastIndex.get? id = some i ↔ forest.IsLast id i := by
  refine ⟨isLast_of_get?_lastIndex, fun h => ?_⟩
  cases hget : forest.lastIndex.get? id with
  | none =>
    obtain ⟨figure, hi, hid⟩ := h.1
    exact absurd hid (get?_lastIndex_eq_none_iff.1 hget figure (List.mem_of_getElem? hi))
  | some j => rw [(isLast_of_get?_lastIndex hget).unique h]

/-- A reference is followed to the last figure that bears the identifier. -/
theorem ofReference_lastIndex {axis : Axis} {reference : Reference} {alignment : Alignment}
    (hasks : reference.Asks axis id alignment) (hlast : forest.IsLast id i) :
    Tie.ofReference axis forest.lastIndex reference = .ok ⟨i, alignment⟩ :=
  Tie.ofReference_eq_ok_iff.2 ⟨id, hasks, get?_lastIndex_eq_some_iff_isLast.2 hlast⟩

end Forest

end BoxArrow
