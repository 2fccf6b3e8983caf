import BoxArrow.Anchor
import BoxArrow.Span

/-!
# Statements

What a diagram source says, one statement after the other: state declarations, connections, and
declarations of components. A declaration with a body is a container, and its body holds
connections and declarations without a body of their own.

## Main definitions

* `StateDeclaration` — a state declaration `@name(…)` with the text between its parentheses
* `Connection` — an arrow from one component to another
* `Heading` — a declaration without its body
* `Member`, `Statement` — what stands inside a body, and at the top level
-/

namespace BoxArrow

/-- A state declaration. The text between its parentheses is read later, by the components that
it belongs to. -/
structure StateDeclaration where
  name : String
  /-- The text between the parentheses. -/
  content : String
  /-- The whole declaration, from the sign `@` to the closing parenthesis. -/
  span : Span
  deriving DecidableEq, Repr

/-- The declaration as it is written. -/
def StateDeclaration.display (state : StateDeclaration) : String :=
  "@" ++ state.name ++ "(" ++ state.content ++ ")"

/-- An arrow from one component to another. -/
structure Connection where
  source : String
  sourceAnchor : Anchor
  target : String
  targetAnchor : Anchor
  /-- The text between the parentheses after the connection, empty if there are none. -/
  style : String
  span : Span
  deriving DecidableEq, Repr

/-- The part of a declaration that stands before its body. -/
structure Heading where
  name : String
  typeName : Option String
  stateTag : Option String
  /-- The name, the type and the state tag. -/
  span : Span
  deriving DecidableEq, Repr

/-- What the body of a container may hold. -/
inductive Member
  | connection (c : Connection)
  | declaration (h : Heading)
  deriving DecidableEq, Repr

/-- What the top level of a source may hold. -/
inductive Statement
  | state (s : StateDeclaration)
  | connection (c : Connection)
  /-- A component, or a container if there is a body. -/
  | declaration (h : Heading) (body : Option (List Member))
  deriving DecidableEq, Repr

end BoxArrow
