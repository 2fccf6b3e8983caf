import BoxArrow.Decimal.Format
import BoxArrow.Layout.Planner
import BoxArrow.Toml

/-!
# Settings

The size of the canvas and the padding of connections come from a settings file. What the file
does not set has a default.

## Main definitions

* `Settings` — the settings of a run
* `Settings.ofText?` — the settings of a file, if it can be read
* `Settings.withCanvas` — the settings with another canvas, which must have positive sides
-/

namespace BoxArrow

/-- The settings of a run. -/
structure Settings where
  canvas : Size
  padding : Float32
  deriving Repr, Inhabited

/-- A reason why there are no settings. -/
inductive SettingsError
  /-- A settings file that cannot be read. -/
  | unreadable
  /-- A settings file that is not there. -/
  | missingFile (path : String)
  /-- A canvas with a side that is not positive. -/
  | invalidCanvas (width height : Float32)

namespace SettingsError

/-- Sizes of a canvas are written in positional form, whole numbers without a point. -/
def sizeFormat : Decimal.Format where
  tie := .up
  positional := none
  wholeEnd := ""
  exponentSign := ""
  negativeZero := "-0"
  nan := "NaN"
  infinity := "inf"

/-- The reason in words. -/
def message : SettingsError → String
  | unreadable => "Failed to parse TOML configuration"
  | missingFile path => "Missing configuration file: " ++ path
  | invalidCanvas width height =>
    "Invalid canvas size " ++ sizeFormat.write width ++ " x " ++ sizeFormat.write height ++
      ": both sides must be positive"

end SettingsError

namespace Settings

/-- The settings when no file sets anything. -/
def standard : Settings := ⟨⟨800, 400⟩, 24⟩

/-- The binary32 number that a value stands for. An integer must fit into 64 bits, with a sign or
without. -/
def number? : Toml.Value → Option Float32
  | .integer n => if -Int.pow 2 63 ≤ n ∧ n < Int.pow 2 64 then some (Float32.ofInt n) else none
  | .float x => some x.toFloat32
  | _ => none

/-- The value of a setting in a section, by its name in a table and by its place in an array. A
moment sets nothing. -/
def entry? (name : String) (place : Nat) : Toml.Value → Option (Option Toml.Value)
  | .table _ entries => some (entries.lookup name)
  | .array items => some items[place]?
  | .moment => some none
  | _ => none

/-- The number set in a section, or a default if it is not set. -/
def setting? (toml : Toml) (table name : String) (place : Nat) (default : Float32) :
    Option Float32 :=
  match toml.lookup table with
  | none => some default
  | some value =>
    match entry? name place value with
    | none => none
    | some none => some default
    | some (some value) => number? value

/-- Whether a value, given with its name, may stand in a settings file. An array in place of a
section may, as its items are looked at only as far as they are needed. -/
def isUsable : String × Toml.Value → Bool
  | ("layout", .array _) | ("routing", .array _) => true
  | (_, value) => value.isSound

/-- The settings of the content of a file. -/
def ofToml? (toml : Toml) : Option Settings := do
  guard (toml.all isUsable)
  let width ← setting? toml "layout" "canvas_width" 0 standard.canvas.width
  let height ← setting? toml "layout" "canvas_height" 1 standard.canvas.height
  let padding ← setting? toml "routing" "elbow_padding" 0 standard.padding
  return ⟨⟨width, height⟩, padding⟩

/-- The settings of a file, if it can be read. -/
def ofText? (text : String) : Option Settings := (Toml.ofText? text).bind ofToml?

/-- The settings with the sides of the canvas replaced where a value is given. A side that is not
above zero is refused, but what is no number passes. -/
def withCanvas (settings : Settings) (width height : Option Float32) :
    Except SettingsError Settings :=
  let width := width.getD settings.canvas.width
  let height := height.getD settings.canvas.height
  if width ≤ 0 ∨ height ≤ 0 then .error (.invalidCanvas width height)
  else .ok { settings with canvas := ⟨width, height⟩ }

/-- The planner with these settings and the types that are always there. -/
def planner (settings : Settings) : Planner := ⟨settings.canvas, settings.padding, .builtIn⟩

end Settings

end BoxArrow
