import BoxArrow.Toml.Line

/-!
# Settings files

A settings file is written in TOML: lines that set keys, under headers that name tables, with
comments.

## Main definitions

* `Toml` — the keys of a file with their values
* `Toml.ofText?` — the content of a file, if it can be read
-/

namespace BoxArrow

/-- The content of a settings file. -/
abbrev Toml := Toml.Entries

namespace Toml

/-- The text without the byte order mark that it may start with. -/
def skipByteOrderMark : List Char → List Char
  | '\uFEFF' :: text => text
  | text => text

/-- The text with carriage returns left out, which may only come before a line feed. -/
def unifyLineEnds? : List Char → Option (List Char)
  | [] => some []
  | '\r' :: '\n' :: rest => (unifyLineEnds? rest).map ('\n' :: ·)
  | c :: rest => if c = '\r' then none else (unifyLineEnds? rest).map (c :: ·)

/-- The content of a file after one more line, with the table that the lines set keys of. -/
def addLine? (content : Toml × List String) (line : Line) : Option (Toml × List String) :=
  let (entries, table) := content
  match line with
  | .empty => some content
  | .header key => (entries.openTable? key).map (·, key.parts)
  | .nextHeader key => (entries.openNext? key).map (·, key.parts)
  | .setting key value => (entries.assignIn? table key value).map (·, table)

/-- The content of a file, if every line can be read. -/
def ofText? (text : String) : Option Toml := do
  let text ← unifyLineEnds? (skipByteOrderMark text.toList)
  let tokens ← Token.scan? .between text
  let lines ← (Token.lines 0 [] tokens).mapM Line.ofTokens?
  let (entries, _) ← lines.foldlM addLine? ([], [])
  return entries

end Toml

end BoxArrow
