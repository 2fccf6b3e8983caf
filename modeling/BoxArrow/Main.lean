import BoxArrow.Arguments
import BoxArrow.Report

/-!
# The program

Reads a source file, lays the diagram out and writes the layout as JSON. Warnings and errors are
shown on the standard error stream. The exit code is `0` if a layout was written, `1` if the run
failed and `2` if the command line is wrong.
-/

namespace BoxArrow.Program

/-- The content of a file, unless it cannot be read. -/
def contentOf (path : String) : IO (Option ByteArray) := do
  let .ok content ← (IO.FS.readBinFile path).toBaseIO | return none
  return some content

/-- The path of the settings file of the system, if the environment tells. -/
def systemPath : IO (Option String) := do
  let directory := (← IO.getEnv "XDG_CONFIG_HOME").filter (·.startsWith "/")
  let home := (← IO.getEnv "HOME").map (· ++ "/.config")
  return (directory.or home).map (· ++ "/nagare/config.toml")

/-- How much is shown, which is said if the name of a level is not known. -/
def levelOf (arguments : Arguments) : IO LogLevel := do
  match LogLevel.ofName? arguments.level with
  | some level => return level
  | none =>
    IO.eprintln ("Invalid log level: " ++ arguments.level ++ ". Using 'warn' instead.")
    return .warn

/-- The session that a command line asks for. -/
def session (arguments : Arguments) : IO Session := do
  let chosen ← arguments.config.mapM fun path => return (path, ← contentOf path)
  let besides ← contentOf "nagare/config.toml"
  let system ←
    match ← systemPath with
    | some path => contentOf path
    | none => pure none
  return {
    chosen := chosen
    besides := besides
    system := system
    width := arguments.width
    height := arguments.height
    source := ← contentOf arguments.source }

/-- Show reports on the standard error stream. -/
def showReports (reports : List Report) : IO Unit :=
  reports.forM fun report => IO.eprintln report.text

/-- Show why a run failed. -/
def fail (level : LogLevel) (failure : Failure) : IO UInt32 := do
  if level.showsErrors then showReports (Report.ofFailure failure)
  return 1

/-- Run with the arguments of a command line. -/
def run (arguments : Arguments) : IO UInt32 := do
  let level ← levelOf arguments
  match (← session arguments).run with
  | .error failure => fail level failure
  | .ok layout =>
    if level.showsWarnings then
      showReports (layout.warnings.map fun w => Report.ofFinding w.finding)
    try
      IO.FS.writeFile arguments.output layout.output
      return 0
    catch e => fail level (.file (toString e))

end BoxArrow.Program

/-- Lay out the diagram that the command line names. -/
def main (words : List String) : IO UInt32 := do
  match BoxArrow.Arguments.ofWords words with
  | .ok arguments => BoxArrow.Program.run arguments
  | .error e =>
    IO.eprintln e.message
    return 2
