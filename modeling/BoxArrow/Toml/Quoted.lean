import BoxArrow.Text.Chars

/-!
# Strings of a settings file

Between double quotation marks a backslash starts an escape, between single ones every character
stands for itself.

## Main definitions

* `Toml.unescape?` — the text that characters with escapes stand for
* `Toml.unquote?` — the text that the characters between two quotation marks stand for
-/

namespace BoxArrow.Toml

/-- A character that separates words on a line. -/
def isSpace (c : Char) : Bool := c == ' ' || c == '\t'

/-- A character that stands neither in a comment nor in a string on one line. -/
def isControl (c : Char) : Bool := (c.toNat < 0x20 && c != '\t') || c.toNat == 0x7F

/-- The character with a given code, unless there is none. -/
def charOfCode? (code : Nat) : Option Char :=
  if h : code.isValidChar then some (Char.ofNatAux code h) else none

/-- The character whose code hexadecimal digits denote. -/
def charOfHex? (digits : List Char) : Option Char :=
  (digits.mapM Text.hexDigit?).bind fun digits =>
    charOfCode? (digits.foldl (fun n d => 16 * n + d) 0)

/-- The character of a short escape, after its backslash. -/
def escaped? : Char → Option Char
  | 'b' => some '\x08'
  | 't' => some '\t'
  | 'n' => some '\n'
  | 'f' => some '\x0c'
  | 'r' => some '\r'
  | 'e' => some '\x1b'
  | '"' => some '"'
  | '\\' => some '\\'
  | _ => none

/-- Whether nothing but spaces comes before the end of a line. -/
def endsLine (text : List Char) : Bool := (text.dropWhile isSpace).head? = some '\n'

/-- The text that characters with escapes stand for. A backslash at the end of a line takes away
the line end and the spaces and line ends after it, which are being skipped if `skipping` is
set. -/
def unescape? (skipping : Bool) : List Char → Option (List Char)
  | [] => some []
  | '\\' :: 'x' :: a :: b :: rest => do
    let char ← charOfHex? [a, b]
    (unescape? false rest).map (char :: ·)
  | '\\' :: 'u' :: a :: b :: c :: d :: rest => do
    let char ← charOfHex? [a, b, c, d]
    (unescape? false rest).map (char :: ·)
  | '\\' :: 'U' :: a :: b :: c :: d :: e :: f :: g :: h :: rest => do
    let char ← charOfHex? [a, b, c, d, e, f, g, h]
    (unescape? false rest).map (char :: ·)
  | '\\' :: c :: rest =>
    match escaped? c with
    | some char => (unescape? false rest).map (char :: ·)
    | none => if endsLine (c :: rest) then unescape? true rest else none
  | c :: rest =>
    if skipping && (isSpace c || c = '\n') then unescape? true rest
    else if c = '\\' ∨ (isControl c ∧ c ≠ '\n') then none
    else (unescape? false rest).map (c :: ·)

/-- The text that the characters between two quotation marks stand for. -/
def unquote? (mark : Char) (text : List Char) : Option String :=
  if mark = '"' then (unescape? false text).map String.ofList
  else if text.any fun c => isControl c && c ≠ '\n' then none
  else some (String.ofList text)

end BoxArrow.Toml
