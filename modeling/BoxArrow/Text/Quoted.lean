/-!
# Quoted text

A separator inside quoted text does not separate. Quoted text starts at a quote mark and ends at
the next mark of the same kind, or with the text.

## Main definitions

* `Text.isQuote` — the marks around quoted text
* `Text.cut?` — the text before and after the first separator outside quoted text
* `Text.splitUnquoted` — the parts of a text between the separators outside quoted text

## Main results

* `Text.append_of_cut?` — cutting loses the separator alone
-/

namespace BoxArrow.Text

/-- A mark that opens and closes quoted text. -/
def isQuote (c : Char) : Bool := c == '"' || c == '\''

/-- The text before and after the first separator outside quoted text. With `some mark` the text
starts inside quoted text that `mark` closes. -/
def cut? (separator : Char) : Option Char → List Char → Option (List Char × List Char)
  | _, [] => none
  | some mark, c :: text =>
    (cut? separator (if c = mark then none else some mark) text).map (Prod.map (c :: ·) id)
  | none, c :: text =>
    -- A quote mark is looked at first, so that no quote mark can separate.
    if isQuote c then (cut? separator (some c) text).map (Prod.map (c :: ·) id)
    else if c = separator then some ([], text)
    else (cut? separator none text).map (Prod.map (c :: ·) id)

/-- Cutting loses the separator alone. -/
theorem append_of_cut? {separator : Char} {mode : Option Char} {text before after : List Char}
    (h : cut? separator mode text = some (before, after)) :
    text = before ++ separator :: after := by
  fun_induction cut? separator mode text generalizing before with
  | case1 => cases h
  | case2 text mark c ih =>
    obtain ⟨⟨before', after'⟩, h', e⟩ := Option.map_eq_some_iff.1 h
    cases e
    simpa using ih h'
  | case3 c text _ ih =>
    obtain ⟨⟨before', after'⟩, h', e⟩ := Option.map_eq_some_iff.1 h
    cases e
    simpa using ih h'
  | case4 => cases h; simp_all
  | case5 c text _ _ ih =>
    obtain ⟨⟨before', after'⟩, h', e⟩ := Option.map_eq_some_iff.1 h
    cases e
    simpa using ih h'

/-- The parts of a text between the separators outside quoted text. Each part starts outside
quoted text. -/
def splitUnquoted (separator : Char) (text : List Char) : List (List Char) :=
  match _h : cut? separator none text with
  | none => [text]
  | some (before, after) => before :: splitUnquoted separator after
termination_by text.length
decreasing_by
  rw [append_of_cut? _h]
  simp only [List.length_append, List.length_cons]
  omega

end BoxArrow.Text
