import BoxArrow.Color
import BoxArrow.Decimal.Read
import BoxArrow.Item
import BoxArrow.Text.Chars

/-!
# Schemas of blocks

A schema lists the keys that a record understands. Each key reads its value without looking at
the record and yields an update of it. Items with other keys are ignored, and the first value that
cannot be read stops the block.

## Main definitions

* `ValueError` — a value that cannot be read, with `ValueError.message`
* `Schema.Key`, `Schema` — a key with its reader, and the keys of a record
* `Schema.update` — the record after the items of a block
* `Schema.read` — the record of a block whose values can all be read, or its first error
* `readInteger`, `readBool`, `readColor` — values of the basic kinds

## Main results

* `Schema.read_eq_ok_iff` — a block is read as the record that its items lead to
-/

namespace BoxArrow

universe u

/-- Why a value that is no plain integer is refused. -/
inductive Refusal
  | notColor (source : String) (reason : ColorError)
  | notBool
  | notPattern
  | offCanvas
  | negativeSize
  | strokeNotPositive
  deriving DecidableEq, Repr

/-- The greatest magnitude of a canvas coordinate: up to it, every integer is a binary32
number. -/
def canvasLimit : Int := Int.pow 2 24

/-- The reason in words. -/
def Refusal.message : Refusal → String
  | notColor source reason => "invalid color `" ++ source ++ "`: " ++ reason.message
  | notBool => "expected `true` or `false`"
  | notPattern => "expected `solid`, `dashed` or `dotted`"
  | offCanvas => "must be within ±" ++ toString canvasLimit
  | negativeSize => "size cannot be negative"
  | strokeNotPositive => "stroke width must be positive"

/-- A value that a key of a schema cannot take. -/
inductive ValueError
  /-- The value is not an integer of 64 bits. -/
  | notInteger (key value : String)
  /-- The value is refused for another reason. -/
  | invalid (key value : String) (reason : Refusal)
  deriving DecidableEq, Repr

/-- The error in words. -/
def ValueError.message : ValueError → String
  | notInteger key value => "failed to parse `" ++ value ++ "` as integer for `" ++ key ++ "`"
  | invalid key value reason =>
    "invalid value `" ++ value ++ "` for `" ++ key ++ "`: " ++ reason.message

/-- The integer that a value stands for. -/
def readInteger (key value : String) : Except ValueError Int :=
  match Decimal.readInteger? value.toList with
  | some n => .ok n
  | none => .error (.notInteger key value)

/-- The truth value that a value stands for, ASCII case aside. -/
def readBool (key value : String) : Except ValueError Bool :=
  match Text.asciiLower value.toList with
  | "true" | "yes" | "on" => .ok true
  | "false" | "no" | "off" => .ok false
  | _ => .error (.invalid key value .notBool)

/-- The color that a value stands for. -/
def readColor (key value : String) : Except ValueError Color :=
  match Color.ofText value with
  | .ok color => .ok color
  | .error reason => .error (.invalid key value (.notColor value reason))

/-- A key of a schema. -/
structure Schema.Key (α : Type u) where
  name : String
  /-- The update of the record that a value stands for. -/
  read : String → Except ValueError (α → α)

/-- A key whose value is read by `parse`, which is told the key, and written by `put`. -/
def Schema.Key.of {α : Type u} {β : Type} (name : String)
    (parse : String → String → Except ValueError β) (put : β → α → α) : Schema.Key α where
  name := name
  read value := (parse name value).map put

/-- The keys of a record. -/
abbrev Schema (α : Type u) := List (Schema.Key α)

namespace Schema

variable {α : Type u}

/-- The record after a list of items, up to the first value that cannot be read. -/
def updateItems (schema : Schema α) : List Item → α → α × Option ValueError
  | [], record => (record, none)
  | item :: items, record =>
    match schema.find? (·.name = item.key) with
    | none => schema.updateItems items record
    | some key =>
      match key.read item.value with
      | .ok update => schema.updateItems items (update record)
      | .error e => (record, some e)

/-- The record after the items of a block. If a value cannot be read, the items before it stay
applied. -/
def update (schema : Schema α) (text : String) (record : α) : α × Option ValueError :=
  schema.updateItems (Item.ofBlock text) record

/-- The record after a block whose values can all be read, or the error of the first that
cannot. -/
def read (schema : Schema α) (text : String) (record : α) : Except ValueError α :=
  match schema.update text record with
  | (record, none) => .ok record
  | (_, some e) => .error e

theorem read_eq_ok_iff {schema : Schema α} {text : String} {record result : α} :
    schema.read text record = .ok result ↔ schema.update text record = (result, none) := by
  unfold read
  split <;> simp_all

end Schema

end BoxArrow
