import BoxArrow.Finding
import BoxArrow.Token

/-!
# Errors of the grammar

Reading a source stops at its first error. Each error says what was found where, and has one
finding.

## Main definitions

* `SyntaxError` — the ways in which a list of tokens fails to be a diagram
* `SyntaxError.finding` — the finding shown for an error
-/

namespace BoxArrow

/-- A reason why a list of tokens is not a diagram. Each comes with the span it is reported at,
and some with the span of the bracket that was open. -/
inductive SyntaxError
  /-- A token that no statement starts with. -/
  | unexpectedToken (found : Token) (place : Span)
  /-- A state name that is not followed by a parenthesis. -/
  | missingBlock (name : String) (place : Span)
  /-- The source ends after the sign `@`. -/
  | endsBeforeStateName (place : Span)
  /-- The source ends after the name of a state. -/
  | endsBeforeBlock (place : Span)
  /-- A body inside a body. -/
  | nestedContainer (place : Span) (opened : Span)
  /-- A closing brace outside all bodies. -/
  | unmatchedBrace (place : Span)
  /-- The source ends inside a body. -/
  | unterminatedContainer (place : Span) (opened : Span)
  /-- The source ends inside a property block. -/
  | unterminatedBlock (place : Span) (opened : Span)
  /-- A state declaration inside a body. -/
  | stateInContainer (place : Span) (opened : Span)
  /-- A colon after a name without a type after it. -/
  | missingType (name : String) (place : Span)
  /-- A sign `@` after a name without a state after it. -/
  | missingTag (name : String) (place : Span)
  /-- A sign `@` without a state name after it. -/
  | missingStateName (place : Span)
  /-- An arrow without a component after it. -/
  | missingTarget (place : Span)
  /-- A dot in a connection without an anchor after it. -/
  | missingAnchor (place : Span)
  deriving DecidableEq, Repr

namespace SyntaxError

/-- The greatest depth at which a body may stand. -/
def maxDepth : Nat := 1

/-- The code of the error. -/
def code : SyntaxError → Code
  | unexpectedToken .. | missingBlock .. => .unexpectedToken
  | endsBeforeStateName .. | endsBeforeBlock .. => .incompleteInput
  | nestedContainer .. => .nestingTooDeep
  | unmatchedBrace .. => .unmatchedBrace
  | unterminatedContainer .. => .unterminatedContainer
  | unterminatedBlock .. => .unterminatedBlock
  | stateInContainer .. => .stateBelowTopLevel
  | missingType .. => .missingType
  | missingTag .. | missingStateName .. => .missingState
  | missingTarget .. | missingAnchor .. => .malformedConnection

/-- The message of the error. -/
def message : SyntaxError → String
  | unexpectedToken found _ => "unexpected token `" ++ found.display ++ "`"
  | missingBlock name _ => "expected `(` after `@" ++ name ++ "`"
  | endsBeforeStateName _ => "unexpected end of input, expected a state name"
  | endsBeforeBlock _ => "unexpected end of input, expected `(`"
  | nestedContainer _ _ => "nesting depth exceeded maximum of " ++ toString maxDepth
  | unmatchedBrace _ => "unmatched closing brace"
  | unterminatedContainer _ _ => "expected closing brace"
  | unterminatedBlock _ _ => "expected closing parenthesis"
  | stateInContainer _ _ => "state declarations are only allowed at the top level"
  | missingType name _ => "expected a component type after `" ++ name ++ ":`"
  | missingTag name _ => "expected a state name after `" ++ name ++ "@`"
  | missingStateName _ => "expected a state name after `@`"
  | missingTarget _ => "expected a target component after `-->`"
  | missingAnchor _ => "expected an anchor after `.`"

/-- The place that the error is reported at. -/
def place : SyntaxError → Span
  | unexpectedToken _ place | missingBlock _ place | endsBeforeStateName place
  | endsBeforeBlock place | nestedContainer place _ | unmatchedBrace place
  | unterminatedContainer place _ | unterminatedBlock place _ | stateInContainer place _
  | missingType _ place | missingTag _ place | missingStateName place | missingTarget place
  | missingAnchor place => place

/-- What is said about the place. -/
def remark : SyntaxError → String
  | unexpectedToken .. => "unexpected token"
  | missingBlock .. => "expected `(`"
  | endsBeforeStateName .. | endsBeforeBlock .. | unterminatedContainer ..
  | unterminatedBlock .. => "input ends here"
  | nestedContainer .. => "nested container body"
  | unmatchedBrace .. => "no container is open here"
  | stateInContainer .. => "inside a container body"
  | missingType .. => "expected a type name"
  | missingTag .. | missingStateName .. => "expected a state name"
  | missingTarget .. => "expected an identifier"
  | missingAnchor .. => "expected an anchor such as `n`, `e` or `sw`"

/-- The bracket that was open, with what is said about it. -/
def opened? : SyntaxError → Option (Span × String)
  | nestedContainer _ opened => some (opened, "inside this container")
  | unterminatedContainer _ opened => some (opened, "container opened here")
  | stateInContainer _ opened => some (opened, "container opened here")
  | unterminatedBlock _ opened => some (opened, "property block opened here")
  | _ => none

/-- Advice on how to mend the source. -/
def advice : SyntaxError → Option String
  | unexpectedToken .. =>
    some "statements start with a component name, a connection or `@state(...)`"
  | nestedContainer .. => some "containers can only be declared at the top level"
  | unterminatedContainer .. => some "add `\x7d` to close the container"
  | stateInContainer .. => some "move the `@name(...)` declaration outside the braces"
  | _ => none

/-- The finding shown for the error: a primary label at its place, and a secondary one at the
bracket that was open. -/
def finding (e : SyntaxError) : Finding where
  severity := .error
  code := some e.code
  message := e.message
  labels :=
    ⟨e.place, e.remark, true⟩ ::
      (e.opened?.map fun opened => ⟨opened.1, opened.2, false⟩).toList
  advice := e.advice

end SyntaxError

end BoxArrow
