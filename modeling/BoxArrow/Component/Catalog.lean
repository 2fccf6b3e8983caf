import BoxArrow.Component.Kind
import BoxArrow.OrderedMap
import BoxArrow.Text.Lowercase
import BoxArrow.Text.Printable

/-!
# Catalogs of component types

A catalog holds the component types that a source may name. Tags are compared by their lowercase
forms.

## Main definitions

* `Catalog` — component types by lowercase tag, oldest tag first
* `Catalog.add`, `Catalog.replace`, `Catalog.get?` — store and look up a type
* `Catalog.typeFor` — the type of a declaration, which always exists
* `Catalog.describe` — the tags on one line
-/

namespace BoxArrow

/-- The component types that a source may name. -/
structure Catalog where
  /-- The types by their lowercase tags. -/
  types : OrderedMap ComponentType
  deriving Repr

namespace Catalog

/-- The catalog without types. -/
def empty : Catalog := ⟨.empty⟩

/-- The type with a given tag, case aside. -/
def get? (catalog : Catalog) (tag : String) : Option ComponentType :=
  catalog.types.get? (Text.lowercase tag)

/-- The catalog with a type added, and the type with the same tag that it takes the place of, if
there is one. -/
def replace (catalog : Catalog) (type : ComponentType) : Option ComponentType × Catalog :=
  (catalog.types.replace (Text.lowercase type.tag) type).map id Catalog.mk

/-- The catalog with a type added. -/
def add (catalog : Catalog) (type : ComponentType) : Catalog := (catalog.replace type).2

/-- The catalog of the types that are always there. -/
def builtIn : Catalog := ComponentType.builtIn.foldl add empty

instance : Inhabited Catalog := ⟨builtIn⟩

/-- The tags as they were last added, in the order in which they were first added. -/
def tags (catalog : Catalog) : List String := catalog.types.values.map (·.tag)

/-- The catalog on one line, for logs: its tags in order, between quotation marks. -/
def describe (catalog : Catalog) : String :=
  "ComponentRegistry \x7b types: [" ++ String.intercalate ", " (catalog.tags.map Text.showQuoted) ++
    "] \x7d"

/-- The tag of the type for containers whose own type cannot have a body. -/
def containerTag : String := "VM"

/-- The type for a declaration whose own type is unknown or unsuitable. -/
def fallback (catalog : Catalog) (isContainer : Bool) : ComponentType :=
  if isContainer then (catalog.get? containerTag).getD .rectangle else .rectangle

/-- The type of a declaration with a given tag or without one. A type that cannot have a body is
not taken for a container. -/
def typeFor (catalog : Catalog) (tag : Option String) (isContainer : Bool) : ComponentType :=
  match tag.bind catalog.get? with
  | some type => if !isContainer || type.canContain then type else catalog.fallback isContainer
  | none => catalog.fallback isContainer

end Catalog

end BoxArrow
