import BoxArrow.Text.CaseTable
import BoxArrow.Text.Chars

/-!
# Lowercase text

Type tags are compared by their lowercase forms. Lowercasing works character by character, except
for two: the dotted capital I becomes two characters, and the capital sigma has a form of its own
at the end of a word.

## Main definitions

* `Text.lowercase` — the lowercase form of a text
-/

namespace BoxArrow.Text

/-- The lowercase form of a character that has one of a single character, otherwise the character
itself. -/
def lowerChar (c : Char) : Char :=
  match lowerRanges.find? fun (first, last, step, _) =>
      first ≤ c.toNat && c.toNat ≤ last && (c.toNat - first) % step == 0 with
  | some (_, _, _, offset) => Char.ofNat ((c.toNat : Int) + offset).toNat
  | none => c

/-- Whether a text starts with a cased character, those without influence on case aside. -/
def startsCased (text : List Char) : Bool :=
  (text.dropWhile (isIn ignorableRanges)).head?.any (isIn casedRanges)

/-- The lowercase form of a character between two texts, the first of them reversed. A capital
sigma after a letter and not before one ends a word. -/
def lowerBetween (before after : List Char) (c : Char) : List Char :=
  if c = '\u03a3' then
    [if startsCased before && !startsCased after then '\u03c2' else '\u03c3']
  else if c = '\u0130' then ['i', '\u0307']
  else [lowerChar c]

/-- The lowercase form of the rest of a text, after the reversed beginning `before`. -/
def lowercaseAfter (before : List Char) : List Char → List Char
  | [] => []
  | c :: text => lowerBetween before text c ++ lowercaseAfter (c :: before) text

/-- The lowercase form of a text. -/
def lowercase (text : String) : String := String.ofList (lowercaseAfter [] text.toList)

end BoxArrow.Text
