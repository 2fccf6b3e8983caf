import BoxArrow.Decimal.Format
import BoxArrow.Text.Chars

/-!
# JSON documents

## Main definitions

* `Json` — a JSON value, whose objects keep the order of their members
* `Json.quote` — a text between quotation marks
* `Json.pretty` — the text of a value, one item to a line
-/

namespace BoxArrow

/-- A JSON value. -/
inductive Json
  | null
  | bool (value : Bool)
  | integer (value : Int)
  | number (value : Float32)
  | string (value : String)
  | array (items : List Json)
  | object (members : List (String × Json))
  deriving Repr, Inhabited

namespace Json

/-- Numbers have a fraction or an exponent. Those of medium size are in positional form. -/
def numberFormat : Decimal.Format where
  tie := .toEven
  positional := some (-6, 13)
  wholeEnd := ".0"
  exponentSign := "+"
  negativeZero := "-0.0"
  nan := "null"
  infinity := "null"

/-- The text of a number. What is no finite number is `null`. -/
def writeNumber (x : Float32) : String :=
  match Binary.ofFloat32 x with
  | .finite .. => numberFormat.write x
  | _ => "null"

/-- A character inside quotation marks. Quotation marks, backslashes and control characters are
escaped, all else stands for itself. -/
def escape (c : Char) : List Char :=
  match c with
  | '"' => ['\\', '"']
  | '\\' => ['\\', '\\']
  | '\x08' => ['\\', 'b']
  | '\t' => ['\\', 't']
  | '\n' => ['\\', 'n']
  | '\x0c' => ['\\', 'f']
  | '\r' => ['\\', 'r']
  | c =>
    if c.toNat < 0x20 then
      ['\\', 'u', '0', '0', Text.hexChar (c.toNat / 16), Text.hexChar (c.toNat % 16)]
    else [c]

/-- A text between quotation marks. -/
def quote (text : String) : String :=
  String.ofList ('"' :: text.toList.flatMap escape ++ ['"'])

/-- The start of a line at a depth. -/
def newline (depth : Nat) : String := String.ofList ('\n' :: List.replicate (2 * depth) ' ')

mutual

/-- The text of a value that stands at a depth. -/
def write (depth : Nat) : Json → String
  | null => "null"
  | bool value => if value then "true" else "false"
  | integer value => toString value
  | number value => writeNumber value
  | string value => quote value
  | array [] => "[]"
  | array (item :: items) =>
    "[" ++ newline (depth + 1) ++ write (depth + 1) item ++ writeItems depth items
  | object [] => "\x7b\x7d"
  | object ((key, value) :: members) =>
    "\x7b" ++ newline (depth + 1) ++ quote key ++ ": " ++ write (depth + 1) value ++
      writeMembers depth members

/-- The further items of an array at a depth, and its end. -/
def writeItems (depth : Nat) : List Json → String
  | [] => newline depth ++ "]"
  | item :: items => "," ++ newline (depth + 1) ++ write (depth + 1) item ++ writeItems depth items

/-- The further members of an object at a depth, and its end. -/
def writeMembers (depth : Nat) : List (String × Json) → String
  | [] => newline depth ++ "\x7d"
  | (key, value) :: members =>
    "," ++ newline (depth + 1) ++ quote key ++ ": " ++ write (depth + 1) value ++
      writeMembers depth members

end

/-- The text of a value, indented by two spaces a level, without a line end. -/
def pretty (value : Json) : String := write 0 value

end Json

end BoxArrow
