import BoxArrow.Span
import BoxArrow.Text.Chars
import BoxArrow.Text.Quoted
import BoxArrow.Token

/-!
# From characters to tokens

A source is cut into pieces, each a blank or a token. Outside quoted text, blanks and structural
marks stand alone, `-->` is an arrow wherever it occurs, and the other characters form words, as
long as possible. A quote mark opens quoted text, which runs to the next mark of the same kind or
to the end of the source. Cutting never fails and loses nothing.

## Main definitions

* `Piece` — a blank or a token, in the order of the source
* `Token.pieces` — the pieces of a text, in or out of quoted text
* `Lexeme` — a token with the bytes it covers
* `Token.scan` — the tokens of a source

## Main results

* `Token.pieces_flatMap_chars` — the pieces, written one after the other, are the text
-/

namespace BoxArrow

/-- A token with the bytes that it covers in the source. -/
structure Lexeme where
  token : Token
  span : Span
  deriving DecidableEq, Repr

/-- A part of a source: one blank, or one token. -/
inductive Piece
  | blank (c : Char)
  | token (t : Token)
  deriving DecidableEq, Repr

namespace Piece

/-- The characters of the piece. -/
def chars : Piece → List Char
  | blank c => [c]
  | token t => t.chars

/-- The token of the piece, unless it is a blank. -/
def token? : Piece → Option Token
  | blank _ => none
  | token t => some t

/-- The pieces of a text that goes on with the word character `c` before them. -/
def consWord (c : Char) : List Piece → List Piece
  | token (.identifier name) :: pieces => token (.identifier (c :: name)) :: pieces
  | pieces => token (.identifier [c]) :: pieces

/-- The pieces of quoted text that goes on with the character `c` before them. -/
def consText (c : Char) : List Piece → List Piece
  | token (.text content) :: pieces => token (.text (c :: content)) :: pieces
  | pieces => token (.text [c]) :: pieces

@[simp] theorem flatMap_chars_consWord (c : Char) (pieces : List Piece) :
    (consWord c pieces).flatMap chars = c :: pieces.flatMap chars := by
  unfold consWord
  split <;> simp [chars, Token.chars]

@[simp] theorem flatMap_chars_consText (c : Char) (pieces : List Piece) :
    (consText c pieces).flatMap chars = c :: pieces.flatMap chars := by
  unfold consText
  split <;> simp [chars, Token.chars]

end Piece

namespace Token

/-- The pieces of a text. With `some mark` the text starts inside quoted text that `mark`
closes, with `none` outside. -/
def pieces : Option Char → List Char → List Piece
  | _, [] => []
  | some mark, c :: rest =>
    if c = mark then .token (quote mark) :: pieces none rest
    else Piece.consText c (pieces (some mark) rest)
  -- An arrow is looked for at every character, so that no word contains one.
  | none, '-' :: '-' :: '>' :: rest => .token arrow :: pieces none rest
  | none, c :: rest =>
    if Text.isBlank c then .blank c :: pieces none rest
    else if Text.isQuote c then .token (quote c) :: pieces (some c) rest
    else
      match ofMark? c with
      | some mark => .token mark :: pieces none rest
      | none => Piece.consWord c (pieces none rest)

theorem chars_ofMark? {c : Char} {t : Token} (h : ofMark? c = some t) : t.chars = [c] := by
  unfold ofMark? at h
  split at h <;> first | (cases h; rfl) | exact absurd h (by simp)

/-- Cutting loses nothing: the pieces, written one after the other, are the text. -/
theorem pieces_flatMap_chars (mode : Option Char) (text : List Char) :
    (pieces mode text).flatMap Piece.chars = text := by
  fun_induction pieces mode text with
  | case1 => rfl
  | case2 rest mark ih => simp [ih, Piece.chars, chars]
  | case3 mark c rest h ih => simp [ih]
  | case4 rest ih => simp [ih, Piece.chars, chars]
  | case5 c rest _ _ ih => simp [ih, Piece.chars]
  | case6 c rest _ _ _ ih => simp [ih, Piece.chars, chars]
  | case7 c rest _ _ _ mark hmark ih => simp [ih, Piece.chars, chars_ofMark? hmark]
  | case8 c rest _ _ _ _ ih => simp [ih]

/-- The tokens among the pieces, with their spans, for a text that starts at byte `offset`. -/
def locate : Nat → List Piece → List Lexeme
  | _, [] => []
  | offset, .blank c :: pieces => locate (offset + c.utf8Size) pieces
  | offset, .token t :: pieces =>
    ⟨t, offset, offset + Text.byteLength t.chars⟩ ::
      locate (offset + Text.byteLength t.chars) pieces

/-- The tokens of a source with their spans. -/
def scan (source : String) : List Lexeme := locate 0 (pieces none source.toList)

theorem map_token_locate (offset : Nat) (pieces : List Piece) :
    (locate offset pieces).map Lexeme.token = pieces.filterMap Piece.token? := by
  fun_induction locate offset pieces with
  | case1 => rfl
  | case2 _ _ _ ih => rw [ih, List.filterMap_cons_none rfl]
  | case3 _ _ _ ih => rw [List.map_cons, ih]; rfl

end Token

end BoxArrow
