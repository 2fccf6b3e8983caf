import BoxArrow.Layout.Export
import BoxArrow.Settings

/-!
# A run of the program

A run reads its settings and a source, lays the diagram out and writes the layout as JSON. The
settings come from the file that is asked for, else from a file beside the source, else from a
file of the system, else from the defaults.

## Main definitions

* `Failure` — a reason why a run has no result
* `Session` — what a run is given
* `Session.run` — the layout, or the failure of a run
-/

namespace BoxArrow

/-- A reason why a run has no result. -/
inductive Failure
  /-- A file that cannot be read. -/
  | file (reason : String)
  /-- A source that is no diagram. -/
  | source (findings : List Finding)
  /-- Settings that cannot be used. -/
  | settings (reason : String)
  deriving DecidableEq, Repr

namespace Failure

/-- The failure in words. -/
def message : Failure → String
  | file reason => "I/O error: " ++ reason
  | source findings => Finding.summary findings
  | settings reason => "Configuration error: " ++ reason

/-- A file that is not there. -/
def missingFile : Failure := file "No such file or directory (os error 2)"

/-- A file that is no text. -/
def notText : Failure := file "stream did not contain valid UTF-8"

/-- The failure of reading a source. -/
def ofSyntaxError (e : SyntaxError) : Failure := source [e.finding]

/-- The failure of reading the settings. -/
def ofSettingsError (e : SettingsError) : Failure := settings e.message

end Failure

/-- What a run is given. Files that are not there have no content. -/
structure Session where
  /-- The path and the content of the settings file that is asked for. -/
  chosen : Option (String × Option ByteArray)
  /-- The settings file beside the source. -/
  besides : Option ByteArray
  /-- The settings file of the system. -/
  system : Option ByteArray
  /-- The width of the canvas that is asked for. -/
  width : Option Float32
  /-- The height of the canvas that is asked for. -/
  height : Option Float32
  source : Option ByteArray

namespace Session

/-- The text of a file. -/
def decode (content : ByteArray) : Except Failure String :=
  match String.fromUTF8? content with
  | some text => .ok text
  | none => .error .notText

/-- The settings of a file. -/
def readSettings (content : ByteArray) : Except Failure Settings := do
  match Settings.ofText? (← decode content) with
  | some settings => return settings
  | none => throw (.ofSettingsError .unreadable)

/-- The settings of a run, from the first file that there is. -/
def settings (session : Session) : Except Failure Settings :=
  match session.chosen with
  | some (_, some content) => readSettings content
  | some (path, none) => .error (.ofSettingsError (.missingFile path))
  | none =>
    match session.besides.or session.system with
    | some content => readSettings content
    | none => .ok .standard

/-- The layout of a run. Settings are looked at first, then the canvas, then the source. -/
def run (session : Session) : Except Failure Layout := do
  let settings ← session.settings
  -- A canvas without positive sides is refused even if there is no source.
  let settings ← (settings.withCanvas session.width session.height).mapError .ofSettingsError
  match session.source with
  | none => throw .missingFile
  | some content =>
    let source ← decode content
    (settings.planner.compile source).mapError .ofSyntaxError

end Session

/-- The text of the file that a layout is written to. -/
def Layout.output (layout : Layout) : String := layout.toJson.pretty

end BoxArrow
