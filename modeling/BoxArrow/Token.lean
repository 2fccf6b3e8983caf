import BoxArrow.Text.Bytes

/-!
# Tokens

The words and marks that a diagram source is made of, and the text that a list of them stands
for.

## Main definitions

* `Token` — a word, a quote mark, quoted text, a structural mark or an arrow
* `Token.chars` — the characters of a token
* `Token.render` — the text of a list of tokens, with a space only where two words meet
-/

namespace BoxArrow

/-- A token of the diagram language. Words and quoted text keep their characters as the lexer
reads them. -/
inductive Token
  /-- A bare word. Hyphens that do not start an arrow are part of it. -/
  | identifier (name : List Char)
  /-- The mark that opens or closes quoted text. -/
  | quote (mark : Char)
  /-- The text between two quote marks, blanks included. -/
  | text (content : List Char)
  | leftBrace
  | rightBrace
  | colon
  | atSign
  | leftParen
  | rightParen
  | comma
  | equals
  | dot
  | ampersand
  /-- The arrow between the two ends of a connection, `-->`. -/
  | arrow
  deriving DecidableEq, Repr

namespace Token

/-- The characters of the token as they stand in a source. -/
def chars : Token → List Char
  | identifier name => name
  | quote mark => [mark]
  | text content => content
  | leftBrace => ['{']
  | rightBrace => ['}']
  | colon => [':']
  | atSign => ['@']
  | leftParen => ['(']
  | rightParen => [')']
  | comma => [',']
  | equals => ['=']
  | dot => ['.']
  | ampersand => ['&']
  | arrow => ['-', '-', '>']

/-- The text of the token. -/
def display (token : Token) : String := String.ofList token.chars

/-- Whether the token is a word. -/
def isWord : Token → Bool
  | identifier _ => true
  | _ => false

/-- The structural mark that a character stands for. -/
def ofMark? : Char → Option Token
  | '{' => some leftBrace
  | '}' => some rightBrace
  | ':' => some colon
  | '@' => some atSign
  | '(' => some leftParen
  | ')' => some rightParen
  | ',' => some comma
  | '=' => some equals
  | '.' => some dot
  | '&' => some ampersand
  | _ => none

/-- The characters that stand between two neighbours: a space between words, nothing else. -/
def gap (left right : Token) : List Char :=
  if left.isWord && right.isWord then [' '] else []

/-- The characters of a list of tokens written one after the other. -/
def renderChars : List Token → List Char
  | [] => []
  | [token] => token.chars
  | left :: right :: tokens => left.chars ++ gap left right ++ renderChars (right :: tokens)

/-- The text of a list of tokens. Quoted text stays as it is, two neighbouring words get a space
between them, and nothing else is added. -/
def render (tokens : List Token) : String := String.ofList (renderChars tokens)

end Token

end BoxArrow
