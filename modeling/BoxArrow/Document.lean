import BoxArrow.OrderedMap
import BoxArrow.Statement.Reader

/-!
# Documents

What a diagram source declares: its components, as a tree, its states and its connections. A state
declaration belongs to every component that bears its name, as an identifier or as a state tag,
whether the component is declared before or after it.

## Main definitions

* `Declaration` — a declared component with the state declarations that belong to it
* `Document` — what a source declares
* `Document.add` — the document after one more statement
* `Document.ofSource` — the document of a source, or its first error
* `Declaration.find?`, `Declaration.count` — search and number of declarations
-/

namespace BoxArrow

/-- A declared component. -/
structure Declaration where
  name : String
  typeName : Option String
  stateTag : Option String
  span : Span
  /-- `0` at the top level, `1` inside a container. -/
  depth : Nat
  /-- Whether the declaration has a body. -/
  isContainer : Bool
  /-- The state declarations that belong to the component, by name. -/
  states : OrderedMap StateDeclaration
  children : List Declaration
  deriving Repr, Inhabited

namespace Declaration

/-- Whether the component bears a name, as its identifier or as its state tag. -/
def bears (d : Declaration) (name : String) : Bool := d.name = name || d.stateTag = some name

/-- The component with a state declaration recorded, if it bears its name. A later declaration of
the same name replaces the earlier one. -/
def record (d : Declaration) (state : StateDeclaration) : Declaration :=
  if d.bears state.name then { d with states := d.states.insert state.name state } else d

/-- The state declaration that bears the identifier of the component. -/
def ownState (d : Declaration) : Option StateDeclaration := d.states.get? d.name

/-- The state declaration that bears the state tag of the component. -/
def taggedState (d : Declaration) : Option StateDeclaration := d.stateTag.bind d.states.get?

/-- A declaration at a given depth, with the state declarations so far. -/
def ofHeading (states : OrderedMap StateDeclaration) (depth : Nat) (isContainer : Bool)
    (children : List Declaration) (heading : Heading) : Declaration :=
  states.values.foldl record
    { name := heading.name
      typeName := heading.typeName
      stateTag := heading.stateTag
      span := heading.span
      depth := depth
      isContainer := isContainer
      states := .empty
      children := children }

/-- The first declaration of an identifier, each component before its children. -/
def find? (name : String) : List Declaration → Option Declaration
  | [] => none
  | d@{ children, .. } :: declarations =>
    if d.name = name then some d else (find? name children).or (find? name declarations)

/-- The number of declarations, those inside containers included. -/
def count : List Declaration → Nat
  | [] => 0
  | { children, .. } :: declarations => 1 + count children + count declarations

end Declaration

/-- What a diagram source declares. -/
structure Document where
  /-- The declarations of the top level. -/
  declarations : List Declaration
  /-- The state declarations, by name. -/
  states : OrderedMap StateDeclaration
  /-- All connections, also those written inside containers. -/
  connections : List Connection
  deriving Repr, Inhabited

namespace Member

/-- The declaration of a member, unless it is a connection. -/
def heading? : Member → Option Heading
  | declaration heading => some heading
  | connection _ => none

/-- The connection of a member, unless it is a declaration. -/
def connection? : Member → Option Connection
  | connection c => some c
  | declaration _ => none

end Member

namespace Document

/-- The document of the empty source. -/
def empty : Document := ⟨[], .empty, []⟩

/-- A component with a state declaration recorded in it and in its children. -/
def record (state : StateDeclaration) (d : Declaration) : Declaration :=
  { d.record state with children := d.children.map (·.record state) }

/-- The document after one more statement. -/
def add (document : Document) : Statement → Document
  | .state state =>
    { document with
      declarations := document.declarations.map (record state)
      states := document.states.insert state.name state }
  | .connection c => { document with connections := document.connections ++ [c] }
  | .declaration heading none =>
    { document with
      declarations :=
        document.declarations ++ [.ofHeading document.states 0 false [] heading] }
  | .declaration heading (some members) =>
    let children := (members.filterMap Member.heading?).map (.ofHeading document.states 1 false [])
    { document with
      declarations :=
        document.declarations ++ [.ofHeading document.states 0 true children heading]
      connections := document.connections ++ members.filterMap Member.connection? }

/-- The document that a list of statements makes up. -/
def ofStatements (statements : List Statement) : Document := statements.foldl add empty

/-- The document of a list of tokens, or the first error in them. -/
def ofTokens (tokens : List Lexeme) : Except SyntaxError Document :=
  (Statement.ofTokens tokens).map ofStatements

/-- The document of a source, or its first error. -/
def ofSource (source : String) : Except SyntaxError Document := ofTokens (Token.scan source)

/-- The first declaration of an identifier, each container before its members. -/
def find? (document : Document) (name : String) : Option Declaration :=
  Declaration.find? name document.declarations

/-- The number of declared components. -/
def count (document : Document) : Nat := Declaration.count document.declarations

end Document

end BoxArrow
