import BoxArrow.Json
import BoxArrow.Layout.Planner

/-!
# Layouts as JSON

## Main definitions

* `Layout.toJson` — the document that a layout is written as
-/

namespace BoxArrow

/-- A point as an object. -/
def Point.toJson (p : Point) : Json := .object [("x", .number p.x), ("y", .number p.y)]

/-- The members of an object that stand for a box. -/
def Box.jsonMembers (b : Box) : List (String × Json) :=
  [("x", .number b.left), ("y", .number b.top), ("width", .number b.width),
    ("height", .number b.height)]

/-- A box as an object. -/
def Box.toJson (b : Box) : Json := .object b.jsonMembers

/-- An anchor as an object. -/
def Anchor.toJson (anchor : Anchor) : Json :=
  .object [("raw", .string anchor.text), ("horizontal", .integer anchor.horizontal.sign),
    ("vertical", .integer anchor.vertical.sign)]

/-- A display property as a text or an integer. -/
def DisplayValue.toJson : DisplayValue → Json
  | text value => .string value
  | integer value => .integer value
  | color value => .string value.source

/-- A component as an object. -/
def Component.toJson (component : Component) : Json :=
  .object
    ([("id", .string component.id), ("type_tag", .string component.typeTag),
      ("parent", component.parent.elim .null .string), ("depth", .integer component.depth)] ++
    component.box.jsonMembers ++
    [("props", .object (component.properties.map fun (key, value) => (key, value.toJson)))])

/-- A pen as an object. -/
def Pen.toJson (pen : Pen) : Json :=
  .object [("dash", .string pen.pattern.name), ("stroke", .string pen.color.source),
    ("stroke_width", .number pen.width), ("marker_start", .bool pen.startHead),
    ("marker_end", .bool pen.endHead)]

/-- An arrow as an object. -/
def Arrow.toJson (arrow : Arrow) : Json :=
  .object [("from_id", .string arrow.source), ("to_id", .string arrow.target),
    ("from_anchor", arrow.sourceAnchor.toJson), ("to_anchor", arrow.targetAnchor.toJson),
    ("points", .array (arrow.route.points.map Point.toJson)), ("style", arrow.pen.toJson),
    ("marker_id", .string arrow.marker)]

/-- A layout as an object. Warnings are given in their one-line form. -/
def Layout.toJson (layout : Layout) : Json :=
  .object [("bounds", layout.canvas.toJson),
    ("components", .array (layout.components.map Component.toJson)),
    ("nodes", .object (layout.places.entries.map fun (id, box) => (id, box.toJson))),
    ("connections", .array (layout.arrows.map Arrow.toJson)),
    ("diagnostics", .array (layout.warnings.map fun w => .string w.finding.display))]

end BoxArrow
