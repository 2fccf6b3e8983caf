import BoxArrow.Item.Schema

/-!
# Display properties

Besides its place, the block of a component sets properties that only matter to whoever draws the
component: texts, colors and integers. Each component type has a list of them, some with a
default.

## Main definitions

* `DisplayValue` — a text, an integer or a color
* `DisplayField`, `DisplayRecord` — a property of a type, and the properties of a component
* `DisplayRecord.schema` — the keys of a record
* `DisplayRecord.amend` — the record after a block, all or nothing
* `DisplayRecord.values` — what is shown: the values set, and defaults for the others
-/

namespace BoxArrow

/-- The value of a display property. -/
inductive DisplayValue
  | text (value : String)
  | integer (value : Int)
  | color (value : Color)
  deriving Repr

/-- The value as text. -/
def DisplayValue.display : DisplayValue → String
  | text value => value
  | integer value => toString value
  | color value => value.source

/-- The kinds of display properties. -/
inductive DisplayKind
  | text
  | integer
  | color
  deriving DecidableEq, Repr

/-- The value of a given kind that a text stands for. -/
def DisplayKind.read (kind : DisplayKind) (key value : String) :
    Except ValueError DisplayValue :=
  match kind with
  | text => .ok (.text value)
  | integer => (readInteger key value).map .integer
  | color => (readColor key value).map .color

/-- A display property of a component type. -/
structure DisplayField where
  key : String
  kind : DisplayKind
  /-- The default, written as in a block. -/
  default? : Option String
  deriving DecidableEq, Repr

namespace DisplayField

/-- The default value of the property, if it has one that can be read. -/
def defaultValue (field : DisplayField) : Option DisplayValue :=
  field.default?.bind fun value => (field.kind.read field.key value).toOption

end DisplayField

/-- The display properties of a component: the properties of its type, each with the value that
is set. -/
abbrev DisplayRecord := List (DisplayField × Option DisplayValue)

namespace DisplayRecord

/-- The record in which no value is set. -/
def fresh (fields : List DisplayField) : DisplayRecord := fields.map fun field => (field, none)

/-- The record with a value set. -/
def put (key : String) (value : DisplayValue) (record : DisplayRecord) : DisplayRecord :=
  record.map fun slot => if slot.1.key = key then (slot.1, some value) else slot

/-- The keys of a component type. -/
def schema (fields : List DisplayField) : Schema DisplayRecord :=
  fields.map fun field => .of field.key field.kind.read (put field.key)

/-- The record after a block, or the first error in the block. -/
def amend (record : DisplayRecord) (text : String) : Except ValueError DisplayRecord :=
  (schema (record.map Prod.fst)).read text record

/-- The values shown, in the order of the properties: those set, and defaults for the others. -/
def values (record : DisplayRecord) : List (String × DisplayValue) :=
  record.filterMap fun slot =>
    (slot.2.or slot.1.defaultValue).map fun value => (slot.1.key, value)

end DisplayRecord

end BoxArrow
