import BoxArrow.Toml.Quoted

/-!
# Tokens of a settings file

Outside strings and comments, brackets, braces, commas and equals signs stand alone, and the other
characters form words, as long as possible. Blanks inside a word belong to it, as in a date with a
time of day, but not those beside a dot, which may separate the parts of a key. Comments are
dropped.

## Main definitions

* `Toml.Token` — a word, a string, a mark, blanks or the end of a line
* `Toml.Token.scan?` — the tokens of a text, if its strings and comments are well formed
* `Toml.Token.lines` — the tokens of each line, where a line goes on inside brackets and braces
-/

namespace BoxArrow.Toml

/-- The smallest unit of a settings file. -/
inductive Token
  | blank
  | lineEnd
  | equals
  | comma
  | openBracket
  | closeBracket
  | openBrace
  | closeBrace
  | word (text : List Char)
  /-- A string on one line. -/
  | string (text : String)
  /-- A string between triple quotation marks. -/
  | block (text : String)
  deriving DecidableEq, Repr, Inhabited

namespace Token

/-- The token that a character stands for by itself. -/
def ofChar? : Char → Option Token
  | ' ' | '\t' => some blank
  | '\n' => some lineEnd
  | '=' => some equals
  | ',' => some comma
  | '[' => some openBracket
  | ']' => some closeBracket
  | '{' => some openBrace
  | '}' => some closeBrace
  | _ => none

/-- A mark at the ends of a string. -/
def isMark (c : Char) : Bool := c == '"' || c == '\''

/-- A character of a word. -/
def isWordChar (c : Char) : Bool := (ofChar? c).isNone && c != '#'

/-- Whether a word that ends in a character goes on with the text after it. Behind a dot a mark
starts a string, but not behind other characters. Blanks are part of a word if they stand between
characters other than dots and no string follows them. -/
def goesOn (last : Char) (text : List Char) : Bool :=
  match text with
  | [] => false
  | c :: _ =>
    if isSpace c then
      last != '.' &&
        (text.dropWhile isSpace).head?.any fun c => isWordChar c && !isMark c && c != '.'
    else isWordChar c && !(isMark c && last == '.')

/-- Where a scan stands: between tokens, in a comment, in a word, in a string on one line or in a
string between triple marks. The characters before the place come last first. In a string, the
next character can be escaped, and at its end some marks can have been passed already. -/
inductive Place
  | between
  | comment
  | word (before : List Char)
  | string (mark : Char) (escaped : Bool) (before : List Char)
  | block (mark : Char) (escaped : Bool) (marks : Nat) (before : List Char)

/-- The text of a string between triple marks. A line end after the marks does not count. -/
def unquoteBlock? (mark : Char) : List Char → Option String
  | '\n' :: text => unquote? mark text
  | text => unquote? mark text

/-- The tokens of a text from a place on. -/
def scan? : Place → List Char → Option (List Token)
  | .between, [] | .comment, [] => some []
  | _, [] => none
  | .comment, c :: rest =>
    if c = '\n' then (scan? .between rest).map (lineEnd :: ·)
    else if isControl c then none
    else scan? .comment rest
  | .string mark escaped before, c :: rest =>
    if c = '\n' then none
    else if c = mark ∧ !escaped then do
      let text ← unquote? mark before.reverse
      (scan? .between rest).map (string text :: ·)
    else scan? (.string mark (c = '\\' && mark = '"' && !escaped) (c :: before)) rest
  | .block mark escaped marks before, c :: rest =>
    if c = mark ∧ !escaped then
      -- The last three of at most five marks in a row are the end.
      if rest.head? = some mark then
        if marks = 4 then none else scan? (.block mark false (marks + 1) (c :: before)) rest
      else if marks < 2 then scan? (.block mark false 0 (c :: before)) rest
      else do
        let text ← unquoteBlock? mark ((c :: before).drop 3).reverse
        (scan? .between rest).map (block text :: ·)
    else scan? (.block mark (c = '\\' && mark = '"' && !escaped) 0 (c :: before)) rest
  | .word before, c :: rest =>
    if goesOn c rest then scan? (.word (c :: before)) rest
    else (scan? .between rest).map (word (c :: before).reverse :: ·)
  | .between, '"' :: '"' :: '"' :: rest => scan? (.block '"' false 0 []) rest
  | .between, '\'' :: '\'' :: '\'' :: rest => scan? (.block '\'' false 0 []) rest
  | .between, c :: rest =>
    if c = '#' then scan? .comment rest
    else if isMark c then scan? (.string c false []) rest
    else
      match ofChar? c with
      | some token => (scan? .between rest).map (token :: ·)
      | none =>
        if goesOn c rest then scan? (.word [c]) rest
        else (scan? .between rest).map (word [c] :: ·)

/-- The number of open brackets and braces after a token. -/
def depthAfter (depth : Nat) : Token → Nat
  | openBracket | openBrace => depth + 1
  | closeBracket | closeBrace => depth - 1
  | _ => depth

/-- The lines of a list of tokens, from a depth of brackets and braces on, with the tokens of the
first line before them, last first. A line end inside brackets or braces ends no line. -/
def lines (depth : Nat) (before : List Token) : List Token → List (List Token)
  | [] => [before.reverse]
  | token :: rest =>
    if depth = 0 ∧ token = lineEnd then before.reverse :: lines 0 [] rest
    else lines (depthAfter depth token) (token :: before) rest

end Token

end BoxArrow.Toml
