import BoxArrow.Arguments
import BoxArrow.Proofs.Outcome

/-!
# Options of the command line

A value may be attached to the name of its option or follow it as a word of its own. Reading never
takes back what has been set, so an option that is given once more is refused, wherever it stands.

## Main results

* `Arguments.Reader.step_attached` — a value that is attached is one that follows
* `Arguments.Reader.isSet_of_foldlM` — an option that has been set stays set
* `Arguments.Reader.foldlM_repeated` — an option is given once
-/

namespace BoxArrow

theorem Flag.ofName?_name (flag : Flag) : ofName? flag.name = some flag := by
  cases flag <;> rfl

namespace Arguments

variable {draft draft' : Draft} {reader reader' : Reader} {flag flag' : Flag} {value : String}

theorem Word.ofText_name (flag : Flag) : ofText flag.name = option flag.name none := by
  cases flag <;> rfl

theorem Word.ofText_attached (flag : Flag) (value : String) :
    ofText (flag.name ++ "=" ++ value) = option flag.name (some value) := by
  cases flag <;> simp [ofText, Flag.name]

namespace Draft

theorem isSet_of_takeSource {path : String} (h : draft.takeSource path = .ok draft')
    (hset : draft.isSet flag = true) : draft'.isSet flag = true := by
  unfold takeSource at h
  split at h
  · cases h
    cases flag <;> exact hset
  · cases h

/-- Setting an option leaves the others as they are. -/
theorem isSet_of_set (h : draft.set flag' value = .ok draft') (hset : draft.isSet flag = true) :
    draft'.isSet flag = true := by
  unfold set at h
  split at h
  · cases h
  · cases flag' with
    | output | config | logLevel =>
      cases h
      cases flag <;> first | rfl | exact hset
    | width | height =>
      obtain ⟨x, -, rfl⟩ := map_eq_ok_iff.1 h
      cases flag <;> first | rfl | exact hset

end Draft

namespace Reader

/-- A value that is attached to its option is one that follows as a word of its own. -/
theorem step_attached (hfree : reader.mode = .free) (hplain : Word.ofText value = .plain value)
    (flag : Flag) :
    reader.step (flag.name ++ "=" ++ value) =
      reader.step flag.name >>= fun reader => reader.step value := by
  simp [step, hfree, Word.ofText_attached, Word.ofText_name, Flag.ofName?_name, hplain, bind,
    Except.bind]

/-- One more word takes back no option. -/
theorem isSet_of_step {word : String} (h : reader.step word = .ok reader')
    (hset : reader.draft.isSet flag = true) : reader'.draft.isSet flag = true := by
  -- A word is a path, starts an option, or sets one.
  unfold step at h
  split at h
  · obtain ⟨draft, hdraft, rfl⟩ := map_eq_ok_iff.1 h
    exact Draft.isSet_of_takeSource hdraft hset
  · obtain ⟨draft, hdraft, rfl⟩ := map_eq_ok_iff.1 h
    exact Draft.isSet_of_takeSource hdraft hset
  · cases h
    exact hset
  · split at h
    · cases h
    · cases h
      exact hset
    · obtain ⟨draft, hdraft, rfl⟩ := map_eq_ok_iff.1 h
      exact Draft.isSet_of_set hdraft hset
  · obtain ⟨draft, hdraft, rfl⟩ := map_eq_ok_iff.1 h
    exact Draft.isSet_of_set hdraft hset
  · cases h
  · cases h

/-- An option that has been set stays set. -/
theorem isSet_of_foldlM {words : List String} (h : words.foldlM step reader = .ok reader')
    (hset : reader.draft.isSet flag = true) : reader'.draft.isSet flag = true := by
  induction words generalizing reader with
  | nil =>
    cases h
    exact hset
  | cons word words ih =>
    rw [List.foldlM_cons] at h
    obtain ⟨reader, hstep, h⟩ := bind_eq_ok_iff.1 h
    exact ih h (isSet_of_step hstep hset)

/-- An option that has been set is refused when it is given once more. -/
theorem foldlM_repeated {words : List String} (h : words.foldlM step reader = .ok reader')
    (hset : reader.draft.isSet flag = true) (hfree : reader'.mode = .free) (value : String)
    (after : List String) :
    (words ++ (flag.name ++ "=" ++ value) :: after).foldlM step reader =
      .error (.repeated flag) := by
  -- The words before have kept the option set, and so the reader refuses to set it.
  have hstep : reader'.step (flag.name ++ "=" ++ value) = .error (.repeated flag) := by
    simp [step, hfree, Word.ofText_attached, Flag.ofName?_name, Draft.set, isSet_of_foldlM h hset,
      Except.map]
  rw [List.foldlM_append, h]
  change (reader'.step (flag.name ++ "=" ++ value) >>= fun reader =>
    after.foldlM step reader) = _
  rw [hstep]
  rfl

end Reader

end Arguments

end BoxArrow
