import BoxArrow.Span

/-!
# Findings

A finding about a source is an error that stops reading, or a warning about a part that layout
leaves out. It carries a code, labels that point into the source, and advice.

## Main definitions

* `Severity`, `Code`, `Label` — the parts of a finding
* `Finding` — the finding, with `Finding.display` for its one-line form
* `Finding.summary` — the one-line form of several findings
-/

namespace BoxArrow

/-- How much a finding matters. -/
inductive Severity
  /-- The source is no diagram. -/
  | error
  /-- A part of the source was left out of the layout. -/
  | warning
  deriving DecidableEq, Repr

namespace Severity

/-- The word that opens the one-line form. -/
def word : Severity → String
  | error => "error"
  | warning => "warning"

/-- Whether the finding is an error. -/
def isError (severity : Severity) : Bool := severity = error

/-- Whether the finding is a warning. -/
def isWarning (severity : Severity) : Bool := severity = warning

end Severity

/-- The kinds of findings. The first ten are errors of the grammar, the others warnings of the
layout. -/
inductive Code
  | unexpectedToken
  | incompleteInput
  | nestingTooDeep
  | unmatchedBrace
  | unterminatedContainer
  | unterminatedBlock
  | stateBelowTopLevel
  | missingType
  | missingState
  | malformedConnection
  | invalidBlock
  | unknownTarget
  | unsupportedAlignment
  | cyclicAlignment
  | unknownEndpoint
  deriving DecidableEq, Repr

namespace Code

/-- The identifier shown to the user. -/
def id : Code → String
  | unexpectedToken => "E100"
  | incompleteInput => "E101"
  | nestingTooDeep => "E102"
  | unmatchedBrace => "E103"
  | unterminatedContainer => "E104"
  | unterminatedBlock => "E105"
  | stateBelowTopLevel => "E106"
  | missingType => "E107"
  | missingState => "E108"
  | malformedConnection => "E109"
  | invalidBlock => "E200"
  | unknownTarget => "E201"
  | unsupportedAlignment => "E202"
  | cyclicAlignment => "E203"
  | unknownEndpoint => "E204"

/-- What the code stands for, in a few words. -/
def description : Code → String
  | unexpectedToken => "unexpected token"
  | incompleteInput => "incomplete input"
  | nestingTooDeep => "nesting depth exceeded"
  | unmatchedBrace => "unmatched closing brace"
  | unterminatedContainer => "unterminated container"
  | unterminatedBlock => "unterminated property block"
  | stateBelowTopLevel => "state declaration below top level"
  | missingType => "missing component type"
  | missingState => "missing state name"
  | malformedConnection => "malformed connection"
  | invalidBlock => "invalid property block"
  | unknownTarget => "unknown alignment target"
  | unsupportedAlignment => "unsupported alignment"
  | cyclicAlignment => "cyclic alignment"
  | unknownEndpoint => "unknown connection endpoint"

/-- All codes, in the order of their identifiers. -/
def all : List Code :=
  [unexpectedToken, incompleteInput, nestingTooDeep, unmatchedBrace, unterminatedContainer,
    unterminatedBlock, stateBelowTopLevel, missingType, missingState, malformedConnection,
    invalidBlock, unknownTarget, unsupportedAlignment, cyclicAlignment, unknownEndpoint]

/-- The code with a given identifier. -/
def ofId? (id : String) : Option Code := all.find? (·.id = id)

theorem mem_all (code : Code) : code ∈ all := by cases code <;> decide

end Code

/-- A message attached to a place in the source. -/
structure Label where
  /-- The place. -/
  span : Span
  /-- What is there. -/
  message : String
  /-- Whether the place is the offending one rather than a related one. -/
  isPrimary : Bool
  deriving DecidableEq, Repr

/-- A finding about a source. -/
structure Finding where
  severity : Severity
  code : Option Code
  message : String
  labels : List Label
  /-- Advice on how to mend the source. -/
  advice : Option String
  deriving DecidableEq, Repr

namespace Finding

/-- The severity, the code in brackets if there is one, and the message. -/
def display (finding : Finding) : String :=
  finding.severity.word ++ (finding.code.elim "" fun code => "[" ++ code.id ++ "]") ++ ": " ++
    finding.message

/-- The first finding, followed by the number of the others. -/
def summary : List Finding → String
  | [] => ""
  | [only] => only.display
  | first :: others => first.display ++ " (+" ++ toString others.length ++ " more)"

end Finding

end BoxArrow
