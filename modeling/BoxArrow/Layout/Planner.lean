import BoxArrow.Layout.Route
import BoxArrow.Layout.Tie
import BoxArrow.Pen

/-!
# Layouts

A layout places every declared component on the canvas and routes every connection between them.
It always exists: what cannot be used is left out and reported.

## Main definitions

* `Layout` — the canvas, the components, the arrows between them and the warnings
* `Planner` — what a layout depends on besides the source
* `Planner.plan` — the layout of a document
* `Planner.compile` — the layout of a source, or its first error
-/

namespace BoxArrow

/-- A component with its final place. -/
structure Component where
  id : String
  /-- The type as declared, or the tag of the type that was taken. -/
  typeTag : String
  /-- The identifier of the container. -/
  parent : Option String
  depth : Nat
  box : Box
  /-- The display properties, with defaults. -/
  properties : List (String × DisplayValue)
  deriving Repr

/-- A connection with its route. -/
structure Arrow where
  source : String
  sourceAnchor : Anchor
  target : String
  targetAnchor : Anchor
  route : Route
  pen : Pen
  /-- The name of the arrowhead, which no other connection of the layout has. -/
  marker : String
  deriving Repr

/-- The layout of a diagram. -/
structure Layout where
  /-- The canvas, whose top left corner is the origin. -/
  canvas : Box
  /-- The components, each container before its members. -/
  components : List Component
  /-- The place of the last component with each identifier. -/
  places : OrderedMap Box
  /-- The connections whose two ends are declared. -/
  arrows : List Arrow
  /-- What was left out, in the order in which it was found. -/
  warnings : List Warning
  deriving Repr

namespace Layout

/-- The last component with a given identifier. -/
def component? (layout : Layout) (id : String) : Option Component :=
  layout.components.reverse.find? (·.id = id)

end Layout

/-- The value of a display property of a component. -/
def Component.property? (component : Component) (key : String) : Option DisplayValue :=
  (component.properties.find? (·.1 = key)).map Prod.snd

/-- What a layout depends on besides the source. -/
structure Planner where
  /-- The size of the canvas, unless the source sets it. -/
  canvas : Size
  /-- How far a connection goes before it turns. -/
  padding : Float32
  catalog : Catalog
  deriving Repr, Inhabited

namespace Planner

/-- The canvas of 800 by 400, a padding of 24, and the types that are always there. -/
def standard : Planner := ⟨⟨800, 400⟩, 24, .builtIn⟩

/-- The name of the state declaration that sets the size of the canvas. -/
def canvasBlock : String := "layout"

/-- The size of the canvas for a document, with a warning if its block cannot be read. -/
def canvasOf (planner : Planner) (document : Document) : Size × List Warning :=
  match document.states.get? canvasBlock with
  | none => (planner.canvas, [])
  | some block =>
    match CanvasSpec.schema.read block.content .empty with
    | .ok size =>
      (⟨size.width.getD planner.canvas.width, size.height.getD planner.canvas.height⟩, [])
    | .error e => (planner.canvas, [.invalidBlock block e])

/-- The pen of a connection, with a warning if its block cannot be read. -/
def penOf (connection : Connection) : Pen × List Warning :=
  if (Text.trim connection.style.toList).isEmpty then (.plain, [])
  else
    match Pen.ofBlock connection.style with
    | .ok pen => (pen, [])
    | .error e => (.plain, [.invalidStyle connection e])

/-- The identifiers at the ends of a connection that no component has, each once. -/
def missingEnds (places : OrderedMap Box) (connection : Connection) : List String :=
  let ends :=
    if connection.source = connection.target then [connection.source]
    else [connection.source, connection.target]
  ends.filter fun id => !places.contains id

/-- The arrows so far with one for a further connection, if its two ends are declared. -/
def connect (planner : Planner) (places : OrderedMap Box)
    (result : List Arrow × List Warning) (connection : Connection) :
    List Arrow × List Warning :=
  match places.get? connection.source, places.get? connection.target with
  | some source, some target =>
    let (pen, warnings) := penOf connection
    let route := Route.between (connection.sourceAnchor.placeOn source) connection.sourceAnchor
      (connection.targetAnchor.placeOn target) connection.targetAnchor planner.padding
    (result.1 ++
      [{ source := connection.source
         sourceAnchor := connection.sourceAnchor
         target := connection.target
         targetAnchor := connection.targetAnchor
         route := route
         pen := pen
         marker := "arrow-" ++ toString (result.1.length + 1) }],
      result.2 ++ warnings)
  | _, _ => (result.1, result.2 ++ [.missingEndpoints connection (missingEnds places connection)])

/-- The component that a figure has become. -/
def component (forest : Forest) (figure : Figure) : Component where
  id := figure.id
  typeTag := figure.typeTag
  parent := figure.parent.bind fun p => forest[p]?.map Figure.id
  depth := figure.depth
  box := figure.box
  properties := figure.record.values

/-- The places of the last figures with each identifier. -/
def placesOf (index : OrderedMap Nat) (forest : Forest) : OrderedMap Box :=
  .ofList (index.entries.filterMap fun entry =>
    forest[entry.2]?.map fun figure => (entry.1, figure.box))

/-- The layout of a document. -/
def plan (planner : Planner) (document : Document) : Layout :=
  let (canvas, canvasWarnings) := planner.canvasOf document
  let (placed, blockWarnings) := Forest.place planner.catalog none document.declarations ([], [])
  -- Identifiers stand for the last figures that bear them, and moving figures changes none.
  let index := placed.lastIndex
  let (forest, tieWarnings) := placed.settle index
  -- Connections are routed last, between figures that no longer move.
  let places := placesOf index forest
  let (arrows, arrowWarnings) :=
    document.connections.foldl (planner.connect places) ([], [])
  { canvas := .ofCorner .origin canvas
    components := forest.map (component forest)
    places := places
    arrows := arrows
    warnings := canvasWarnings ++ blockWarnings ++ tieWarnings ++ arrowWarnings }

/-- The layout of a source, or its first error. -/
def compile (planner : Planner) (source : String) : Except SyntaxError Layout :=
  (Document.ofSource source).map planner.plan

end Planner

end BoxArrow
