import BoxArrow.Color.Value
import BoxArrow.Text.Chars

/-!
# Colors

A color is a text in one of the forms of CSS: hexadecimal digits after `#`, a name, or a function
such as `rgb(…)`. Layout does not mix colors. It only refuses texts that are none, and keeps the
spelling for whoever draws the diagram.

## Main definitions

* `ColorError` — the ways in which a text fails to be a color
* `Color` — a valid color text with its opacity
* `Color.names` — the colors that have a name
* `Color.ofText` — the color that a text stands for, or the reason why it stands for none
-/

namespace BoxArrow

/-- A reason why a text is not a color. -/
inductive ColorError
  | unknownForm
  | hexLength
  | unknownName
  | trailingText
  | missingArguments
  | missingParenthesis
  | missingComma
  | unknownComponent
  | unknownAngle
  | unknownAngleUnit
  | missingSpace
  | unknownSpace
  deriving DecidableEq, Repr

/-- The reason in words. -/
def ColorError.message : ColorError → String
  | unknownForm => "unknown color syntax"
  | hexLength => "wrong number of hex digits"
  | unknownName => "unknown color identifier"
  | trailingText => "expected end of string"
  | missingArguments => "expected arguments"
  | missingParenthesis => "expected closing parenthesis"
  | missingComma => "expected comma"
  | unknownComponent => "unknown color component"
  | unknownAngle => "unknown angle"
  | unknownAngleUnit => "unknown angle dimension"
  | missingSpace => "expected color space identifier"
  | unknownSpace => "unknown color space"

/-- A valid color, as it is written, with its opacity. -/
structure Color where
  source : String
  /-- The opacity, from `0` to `1`. -/
  alpha : Float32
  deriving Repr, Inhabited

namespace Color

/-- The colors that have a name, in alphabetical order. -/
def names : List String := [
    "aliceblue", "antiquewhite", "aqua", "aquamarine", "azure", "beige", "bisque", "black",
    "blanchedalmond", "blue", "blueviolet", "brown", "burlywood", "cadetblue", "chartreuse",
    "chocolate", "coral", "cornflowerblue", "cornsilk", "crimson", "cyan", "darkblue", "darkcyan",
    "darkgoldenrod", "darkgray", "darkgreen", "darkkhaki", "darkmagenta", "darkolivegreen",
    "darkorange", "darkorchid", "darkred", "darksalmon", "darkseagreen", "darkslateblue",
    "darkslategray", "darkturquoise", "darkviolet", "deeppink", "deepskyblue", "dimgray",
    "dodgerblue", "firebrick", "floralwhite", "forestgreen", "fuchsia", "gainsboro", "ghostwhite",
    "gold", "goldenrod", "gray", "green", "greenyellow", "honeydew", "hotpink", "indianred",
    "indigo", "ivory", "khaki", "lavender", "lavenderblush", "lawngreen", "lemonchiffon",
    "lightblue", "lightcoral", "lightcyan", "lightgoldenrodyellow", "lightgray", "lightgreen",
    "lightpink", "lightsalmon", "lightseagreen", "lightskyblue", "lightslategray",
    "lightsteelblue", "lightyellow", "lime", "limegreen", "linen", "magenta", "maroon",
    "mediumaquamarine", "mediumblue", "mediumorchid", "mediumpurple", "mediumseagreen",
    "mediumslateblue", "mediumspringgreen", "mediumturquoise", "mediumvioletred", "midnightblue",
    "mintcream", "mistyrose", "moccasin", "navajowhite", "navy", "oldlace", "olive", "olivedrab",
    "orange", "orangered", "orchid", "palegoldenrod", "palegreen", "paleturquoise",
    "palevioletred", "papayawhip", "peachpuff", "peru", "pink", "plum", "powderblue", "purple",
    "rebeccapurple", "red", "rosybrown", "royalblue", "saddlebrown", "salmon", "sandybrown",
    "seagreen", "seashell", "sienna", "silver", "skyblue", "slateblue", "slategray", "snow",
    "springgreen", "steelblue", "tan", "teal", "thistle", "tomato", "transparent", "turquoise",
    "violet", "wheat", "white", "whitesmoke", "yellow", "yellowgreen"]

/-- A step of reading a color, which takes characters from the start of a text. -/
abbrev Reading := StateT (List Char) (Except ColorError)

/-- Skip spaces and comments. -/
def space : Reading Unit := modify skipSpace

/-- Take a given character, if it comes next. -/
def takeChar (c : Char) : Reading Bool := do
  match skipChar? c (← get) with
  | some rest => set rest; return true
  | none => return false

/-- Take an argument after spaces, if there is one. -/
def takeValue : Reading (Option Value) := do
  space
  match Value.read? (← get) with
  | some (value, rest) => set rest; return some value
  | none => return none

/-- A component of a color: a number, a percentage or the word `none`. -/
def component : Reading Float := do
  match ← takeValue with
  | some (.number x) => return x
  | some (.percent x) => return x * 0.01
  | some (.symbol "none") => return 0
  | _ => throw .unknownComponent

/-- A hue: a number, a number with an angular unit, or the word `none`. -/
def angle : Reading Unit := do
  match ← takeValue with
  | some (.number _) | some (.symbol "none") => return
  | some (.dimension unit) =>
    if unit ∈ ["deg", "rad", "grad", "turn"] then return else throw .unknownAngleUnit
  | _ => throw .unknownAngle

/-- A number moved into the range from `0` to `1`. -/
def clampUnit (x : Float) : Float := if x < 0 then 0 else if 1 < x then 1 else x

/-- The opacity after a separator. Without the separator the color is opaque. -/
def opacity (separator : Char) : Reading Float32 := do
  space
  if ← takeChar separator then return (clampUnit (← component)).toFloat32 else return 1

/-- The parenthesis at the end of a function. -/
def close : Reading Unit := do
  space
  unless ← takeChar ')' do throw .missingParenthesis

/-- The comma between two components, where the first two were separated by one. -/
def separator (commas : Bool) : Reading Unit := do
  if commas then
    unless ← takeChar ',' do throw .missingComma

/-- The opacity and the end of a function whose components are separated by commas or by
spaces. -/
def finish (commas : Bool) : Reading Float32 := do
  let alpha ← opacity (if commas then ',' else '/')
  close
  return alpha

/-- Three components, with commas between them or without. -/
def rgb : Reading Float32 := do
  let _ ← component
  space
  let commas ← takeChar ','
  let _ ← component
  space
  separator commas
  let _ ← component
  finish commas

/-- A hue and two components, with commas between them or without. -/
def hsl : Reading Float32 := do
  angle
  let commas ← takeChar ','
  let _ ← component
  space
  separator commas
  let _ ← component
  finish commas

/-- Three components without commas. -/
def lab : Reading Float32 := do
  let _ ← component
  let _ ← component
  let _ ← component
  finish false

/-- Two components and a hue without commas. -/
def lch : Reading Float32 := do
  let _ ← component
  let _ ← component
  angle
  finish false

/-- A hue and two components without commas. -/
def hwb : Reading Float32 := do
  angle
  let _ ← component
  let _ ← component
  finish false

/-- The color spaces that the function `color` accepts. -/
def spaces : List String :=
  ["srgb", "srgb-linear", "display-p3", "a98-rgb", "prophoto-rgb", "rec2020", "xyz-d50", "xyz",
    "xyz-d65"]

/-- A color space and three components without commas. -/
def inSpace : Reading Float32 := do
  space
  match readIdent? (← get) with
  | none => throw .missingSpace
  | some (word, rest) =>
    set rest
    unless Text.asciiLower word ∈ spaces do throw .unknownSpace
    lab

/-- The arguments of the color functions, by name. -/
def function? : String → Option (Reading Float32)
  | "rgb" | "rgba" => some rgb
  | "hsl" | "hsla" => some hsl
  | "lab" | "oklab" => some lab
  | "lch" | "oklch" => some lch
  | "hwb" => some hwb
  | "color" => some inSpace
  | _ => none

/-- The opening parenthesis of a function, which nothing may precede. -/
def openArguments : Reading Unit := do
  match ← get with
  | '(' :: rest => set rest
  | _ => throw .missingArguments

/-- A color that starts with a word: a function or a name. -/
def word : Reading Float32 := do
  match readIdent? (← get) with
  | none => throw .unknownForm
  | some (chars, rest) =>
    set rest
    let name := Text.asciiLower chars
    match function? name with
    | some arguments =>
      openArguments
      arguments
    | none =>
      if name ∈ names then return if name = "transparent" then 0 else 1
      else throw .unknownName

/-- The opacity of a color in hexadecimal digits: the fourth digit written twice, or the last two
of eight, in units of `1 / 255`. -/
def hexOpacity : List Nat → Except ColorError Float32
  | [_, _, _] | [_, _, _, _, _, _] => .ok 1
  | [_, _, _, a] => .ok (Float32.ofNat (17 * a) * (1 / 255))
  | [_, _, _, _, _, _, a, b] => .ok (Float32.ofNat (16 * a + b) * (1 / 255))
  | _ => .error .hexLength

/-- Hexadecimal digits, at most eight of which are taken. -/
def hex : Reading Float32 := do
  let digits := ((← get).take 8).takeWhile fun c => (Text.hexDigit? c).isSome
  let alpha ← hexOpacity (digits.filterMap Text.hexDigit?)
  modify (List.drop digits.length)
  return alpha

/-- A color, in any of its forms. -/
def any : Reading Float32 := do
  match ← get with
  | '#' :: rest =>
    set rest
    hex
  | _ => word

/-- The color that a text stands for, outer blanks aside, or the reason why it stands for none. -/
def ofText (source : String) : Except ColorError Color :=
  match any.run (Text.trim source.toList) with
  | .error e => .error e
  | .ok (alpha, []) => .ok ⟨source, alpha⟩
  | .ok (_, _ :: _) => .error .trailingText

end Color

end BoxArrow
