/-!
# Characters

Blanks separate words in a diagram source and are trimmed from both ends of keys, values and
anchors. They are the characters with the Unicode property `White_Space`. Keywords are compared
without regard to the case of ASCII letters, while letters outside ASCII keep their case. Other
properties of the Unicode character database are kept as lists of ranges, each given by its first
and its last character.

## Main definitions

* `Text.isBlank` — the character is white space
* `Text.trim` — a text without the blanks at its two ends
* `Text.asciiLower` — a text with its ASCII capitals made small
* `Text.hexDigit?`, `Text.hexChar` — the value of a hexadecimal digit, and the digit of a value
* `Text.isIn` — whether a character lies in one of the given ranges

## Main results

* `Text.hexDigit?_hexChar` — the digit of a value has that value
-/

namespace BoxArrow.Text

/-! ### Blanks -/

/-- A character with the property `White_Space`. The zero-width space and the byte order mark
do not have it. -/
def isBlank (c : Char) : Bool :=
  (0x09 ≤ c.toNat && c.toNat ≤ 0x0D) || c.toNat == 0x20 || c.toNat == 0x85 || c.toNat == 0xA0 ||
    c.toNat == 0x1680 || (0x2000 ≤ c.toNat && c.toNat ≤ 0x200A) || c.toNat == 0x2028 ||
    c.toNat == 0x2029 || c.toNat == 0x202F || c.toNat == 0x205F || c.toNat == 0x3000

/-- The text from its first character that is not blank. -/
def trimLeft (text : List Char) : List Char :=
  text.dropWhile isBlank

/-- The text up to its last character that is not blank. -/
def trimRight (text : List Char) : List Char :=
  (text.reverse.dropWhile isBlank).reverse

/-- The text without the blanks at its two ends. -/
def trim (text : List Char) : List Char :=
  trimRight (trimLeft text)

/-! ### ASCII letters and hexadecimal digits -/

/-- The text with its ASCII capitals made small. -/
def asciiLower (text : List Char) : String := String.ofList (text.map Char.toLower)

/-- The value of a hexadecimal digit, in either case. -/
def hexDigit? (c : Char) : Option Nat :=
  if '0' ≤ c ∧ c ≤ '9' then some (c.toNat - '0'.toNat)
  else if 'a' ≤ c ∧ c ≤ 'f' then some (c.toNat - 'a'.toNat + 10)
  else if 'A' ≤ c ∧ c ≤ 'F' then some (c.toNat - 'A'.toNat + 10)
  else none

/-- The hexadecimal digit of a value below `16`, in lowercase. -/
def hexChar (n : Nat) : Char := if n < 10 then Char.ofNat (48 + n) else Char.ofNat (87 + n)

theorem hexDigit?_hexChar {n : Nat} (h : n < 16) : hexDigit? (hexChar n) = some n := by
  revert n
  decide

/-! ### Ranges -/

/-- Whether a character lies in one of the given ranges. -/
def isIn (ranges : List (Nat × Nat)) (c : Char) : Bool :=
  ranges.any fun range => range.1 ≤ c.toNat && c.toNat ≤ range.2

end BoxArrow.Text
