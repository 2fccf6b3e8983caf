import BoxArrow.Document
import BoxArrow.Finding
import BoxArrow.Item.Schema
import BoxArrow.Plane

/-!
# Warnings

Layout never fails. A part of the document that it cannot use is left out and reported.

## Main definitions

* `Warning` — the parts that layout leaves out
* `Warning.finding` — the finding shown for a warning
-/

namespace BoxArrow

/-- A part of a document that layout leaves out. -/
inductive Warning
  /-- A block with a value that cannot be read. -/
  | invalidBlock (block : StateDeclaration) (error : ValueError)
  /-- The block of a connection with a value that cannot be read. -/
  | invalidStyle (connection : Connection) (error : ValueError)
  /-- A reference without a dot, or without a name before it. -/
  | malformedReference (reference : String) (block : Span)
  /-- A reference with a keyword that does not fit the axis. -/
  | unsupportedKeyword (axis : Axis) (keyword : String) (block : Span)
  /-- A reference to a component that is not declared. -/
  | unknownTarget (target : String) (block : Span)
  /-- A reference that its own target depends on. -/
  | cyclicReference (axis : Axis) (id : String) (block : Span)
  /-- A connection with an end that is not declared. -/
  | missingEndpoints (connection : Connection) (missing : List String)
  deriving DecidableEq, Repr

namespace Warning

/-- The code of the warning. -/
def code : Warning → Code
  | invalidBlock .. | invalidStyle .. => .invalidBlock
  | malformedReference .. | unsupportedKeyword .. => .unsupportedAlignment
  | unknownTarget .. => .unknownTarget
  | cyclicReference .. => .cyclicAlignment
  | missingEndpoints .. => .unknownEndpoint

/-- A name between backquotes. -/
def quoted (name : String) : String := "`" ++ name ++ "`"

/-- The message of the warning. -/
def message : Warning → String
  | invalidBlock block error =>
    "invalid property block " ++ quoted ("@" ++ block.name) ++ ": " ++ error.message
  | invalidStyle _ error => "invalid connection style: " ++ error.message
  | malformedReference reference _ =>
    "malformed alignment reference " ++ quoted ("&" ++ reference)
  | unsupportedKeyword axis keyword _ =>
    "unsupported alignment " ++ quoted keyword ++ " on the " ++ axis.name ++ " axis"
  | unknownTarget target _ => "alignment target " ++ quoted target ++ " not found"
  | cyclicReference axis id _ =>
    "cyclic alignment reference for " ++ quoted id ++ " on the " ++ axis.name ++ " axis"
  | missingEndpoints _ missing =>
    "connection " ++ (if missing.length > 1 then "endpoints " else "endpoint ") ++
      String.intercalate " and " (missing.map quoted) ++ " not found"

/-- The place that the warning is reported at. -/
def place : Warning → Span
  | invalidBlock block _ => block.span
  | invalidStyle connection _ | missingEndpoints connection _ => connection.span
  | malformedReference _ block | unsupportedKeyword _ _ block | unknownTarget _ block
  | cyclicReference _ _ block => block

/-- What is said about the place. -/
def remark : Warning → String
  | invalidBlock .. => "block skipped"
  | invalidStyle .. => "default style used"
  | malformedReference .. | unsupportedKeyword .. => "in this property block"
  | unknownTarget .. => "referenced here"
  | cyclicReference .. => "part of a reference cycle"
  | missingEndpoints .. => "connection dropped"

/-- Advice on how to mend the source. -/
def advice : Warning → Option String
  | malformedReference .. =>
    some "write references as `&id.keyword`, for example `&browser.c`"
  | unsupportedKeyword .horizontal _ _ => some "use `c`, `l` or `r` on the x axis"
  | unsupportedKeyword .vertical _ _ => some "use `c`, `t` or `b` on the y axis"
  | cyclicReference .. => some "break the cycle by giving one component a literal position"
  | _ => none

/-- The finding shown for the warning, with one label at its place. -/
def finding (w : Warning) : Finding where
  severity := .warning
  code := some w.code
  message := w.message
  labels := [⟨w.place, w.remark, true⟩]
  advice := w.advice

end Warning

end BoxArrow
