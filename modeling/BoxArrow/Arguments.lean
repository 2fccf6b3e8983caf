import BoxArrow.Decimal.Read
import BoxArrow.Text.Chars

/-!
# Arguments of the command line

A run names one source file and may name a file for the result, a settings file, the sides of the
canvas, and how much is to be shown. An option takes one value, which is attached to it or is the
next word, and may be given once. Behind the word `--` there are only paths.

## Main definitions

* `LogLevel` — how much a run shows
* `Arguments` — what the command line asks for
* `Arguments.Word` — a word of a command line, by its form
* `Arguments.Reader.step` — one more word of a command line
* `Arguments.ofWords` — the arguments, or what is wrong with them
-/

namespace BoxArrow

/-- How much a run shows, from nothing upwards. -/
inductive LogLevel
  | off
  | error
  | warn
  | info
  | debug
  | trace
  deriving DecidableEq, Repr

namespace LogLevel

/-- The level with a given name, ASCII case aside. -/
def ofName? (name : String) : Option LogLevel :=
  match Text.asciiLower name.toList with
  | "off" => some off
  | "error" => some error
  | "warn" => some warn
  | "info" => some info
  | "debug" => some debug
  | "trace" => some trace
  | _ => none

/-- Whether errors are shown. -/
def showsErrors (level : LogLevel) : Bool := level ≠ off

/-- Whether warnings are shown. -/
def showsWarnings (level : LogLevel) : Bool := level ≠ off && level ≠ error

end LogLevel

/-- The options of a command line. Each of them takes a value. -/
inductive Flag
  | output
  | config
  | logLevel
  | width
  | height
  deriving DecidableEq, Repr

namespace Flag

/-- The long name of the option. -/
def name : Flag → String
  | output => "--output"
  | config => "--config"
  | logLevel => "--log-level"
  | width => "--width"
  | height => "--height"

/-- The option with its value, as messages show it. -/
def usage : Flag → String
  | output => "--output <OUTPUT>"
  | config => "--config <CONFIG>"
  | logLevel => "--log-level <LOG_LEVEL>"
  | width => "--width <WIDTH>"
  | height => "--height <HEIGHT>"

/-- The option that a name stands for. Two options have a short name too. -/
def ofName? : String → Option Flag
  | "-o" | "--output" => some output
  | "-c" | "--config" => some config
  | "--log-level" => some logLevel
  | "--width" => some width
  | "--height" => some height
  | _ => none

end Flag

/-- What is wrong with a command line. -/
inductive ArgumentError
  | missingSource
  | unexpected (word : String)
  | missingValue (flag : Flag)
  | repeated (flag : Flag)
  | notNumber (flag : Flag) (value : String)
  deriving DecidableEq, Repr

namespace ArgumentError

/-- The error in words. -/
def message : ArgumentError → String
  | missingSource => "error: the following required arguments were not provided:\n  <INPUT>"
  | unexpected word => "error: unexpected argument '" ++ word ++ "' found"
  | missingValue flag =>
    "error: a value is required for '" ++ flag.usage ++ "' but none was supplied"
  | repeated flag =>
    "error: the argument '" ++ flag.usage ++ "' cannot be used multiple times"
  | notNumber flag value =>
    "error: invalid value '" ++ value ++ "' for '" ++ flag.usage ++ "': " ++
      if value.isEmpty then "cannot parse float from empty string" else "invalid float literal"

end ArgumentError

/-- What the command line asks for. -/
structure Arguments where
  source : String
  output : String
  config : Option String
  /-- The name of a level, as it is written. -/
  level : String
  width : Option Float32
  height : Option Float32

namespace Arguments

/-! ### Words -/

/-- A word of a command line, by its form alone. -/
inductive Word
  /-- The word `--`. -/
  | escape
  /-- A name that starts with `-`, and the value that is attached to it. -/
  | option (name : String) (value : Option String)
  | plain (text : String)
  deriving DecidableEq, Repr

/-- The form of a word. A value is attached to a long name by `=`, and to a short one with or
without it. -/
def Word.ofText (text : String) : Word :=
  match text.toList with
  | ['-', '-'] => escape
  | '-' :: '-' :: rest =>
    let name := "--" ++ .ofList (rest.takeWhile (· ≠ '='))
    match rest.dropWhile (· ≠ '=') with
    | [] => option name none
    | _ :: value => option name (some (.ofList value))
  | ['-'] => plain text
  | ['-', c] => option (.ofList ['-', c]) none
  | '-' :: c :: '=' :: value => option (.ofList ['-', c]) (some (.ofList value))
  | '-' :: c :: value => option (.ofList ['-', c]) (some (.ofList value))
  | _ => plain text

/-! ### Values -/

/-- What is known of the arguments while the command line is read. -/
structure Draft where
  source : Option String
  output : Option String
  config : Option String
  level : Option String
  width : Option Float32
  height : Option Float32

namespace Draft

/-- Nothing known. -/
def empty : Draft := ⟨none, none, none, none, none, none⟩

/-- The number that an option is set to. -/
def readNumber (flag : Flag) (value : String) : Except ArgumentError Float32 :=
  match Decimal.readFloat32? value.toList with
  | some x => .ok x
  | none => .error (.notNumber flag value)

/-- Whether an option has been set. -/
def isSet (draft : Draft) : Flag → Bool
  | .output => draft.output.isSome
  | .config => draft.config.isSome
  | .logLevel => draft.level.isSome
  | .width => draft.width.isSome
  | .height => draft.height.isSome

/-- The draft with an option set, which it must not be yet. -/
def set (draft : Draft) (flag : Flag) (value : String) : Except ArgumentError Draft :=
  if draft.isSet flag then .error (.repeated flag)
  else
    match flag with
    | .output => .ok { draft with output := some value }
    | .config => .ok { draft with config := some value }
    | .logLevel => .ok { draft with level := some value }
    | .width => (readNumber flag value).map fun x => { draft with width := some x }
    | .height => (readNumber flag value).map fun x => { draft with height := some x }

/-- The draft with the path of its source. -/
def takeSource (draft : Draft) (path : String) : Except ArgumentError Draft :=
  match draft.source with
  | none => .ok { draft with source := some path }
  | some _ => .error (.unexpected path)

/-- The arguments, with what stands for those that are not given. -/
def finish (draft : Draft) : Except ArgumentError Arguments :=
  match draft.source with
  | none => .error .missingSource
  | some source => .ok {
      source := source
      output := draft.output.getD "out.json"
      config := draft.config
      level := draft.level.getD "info"
      width := draft.width
      height := draft.height }

end Draft

/-! ### Reading -/

/-- What the next word of a command line is. -/
inductive Mode
  | free
  /-- The value of an option. -/
  | value (flag : Flag)
  /-- A path, whatever it looks like. -/
  | path
  deriving DecidableEq, Repr

/-- A command line while it is read. -/
structure Reader where
  draft : Draft
  mode : Mode

namespace Reader

/-- The reader after one more word. -/
def step (reader : Reader) (word : String) : Except ArgumentError Reader :=
  match reader.mode, Word.ofText word with
  | .path, _ => (reader.draft.takeSource word).map (⟨·, .path⟩)
  | .free, .plain _ => (reader.draft.takeSource word).map (⟨·, .free⟩)
  | .free, .escape => .ok ⟨reader.draft, .path⟩
  | .free, .option name value =>
    match Flag.ofName? name, value with
    | none, _ => .error (.unexpected name)
    | some flag, none => .ok ⟨reader.draft, .value flag⟩
    | some flag, some value => (reader.draft.set flag value).map (⟨·, .free⟩)
  | .value flag, .plain _ => (reader.draft.set flag word).map (⟨·, .free⟩)
  -- A name that is not known is reported before the value that is missing.
  | .value flag, .option name _ =>
    .error (if (Flag.ofName? name).isSome then .missingValue flag else .unexpected name)
  | .value flag, .escape => .error (.missingValue flag)

/-- The arguments when there are no more words. -/
def finish (reader : Reader) : Except ArgumentError Arguments :=
  match reader.mode with
  | .value flag => .error (.missingValue flag)
  | .free | .path => reader.draft.finish

end Reader

/-- The arguments of a command line, or what is wrong with it. -/
def ofWords (words : List String) : Except ArgumentError Arguments := do
  (← words.foldlM Reader.step ⟨.empty, .free⟩).finish

end Arguments

end BoxArrow
