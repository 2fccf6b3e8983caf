import BoxArrow.Text.Chars
import BoxArrow.Text.Quoted

/-!
# Items of a block

The text of a block is a list of items `key: value` with commas between them. Commas and colons
inside quoted text do not count.

## Main definitions

* `Item` — a key with its value
* `Item.ofBlock` — the items of a block
-/

namespace BoxArrow

/-- An item of a block. -/
structure Item where
  key : String
  value : String
  deriving DecidableEq, Repr

namespace Item

/-- The text without one opening parenthesis at its start and one closing parenthesis at its end.
Either is removed without the other. -/
def dropParens (text : List Char) : List Char :=
  let text := if text.head? = some '(' then text.tail else text
  if text.getLast? = some ')' then text.dropLast else text

/-- The text without the quote marks around it, if there is the same mark at both ends. -/
def dropQuotes : List Char → List Char
  | mark :: text =>
    if Text.isQuote mark && text.getLast? = some mark then text.dropLast else mark :: text
  | [] => []

/-- The item that a text stands for: a key before the first colon and a value after it. -/
def ofItem? (item : List Char) : Option Item :=
  (Text.cut? ':' none item).map fun (key, value) =>
    ⟨String.ofList (Text.trim key), String.ofList (dropQuotes (Text.trim value))⟩

/-- The items of a block. The parentheses around it are optional, and parts without a colon are
left out. -/
def ofBlock (text : String) : List Item :=
  ((Text.splitUnquoted ',' (dropParens (Text.trim text.toList))).map Text.trim).filterMap
    ofItem?

end Item

end BoxArrow
