import BoxArrow.Item.Schema

/-!
# Pens

## Main definitions

* `LinePattern` — solid, dashed or dotted
* `Pen` — how a connection is drawn
* `Pen.ofBlock` — the pen that a block sets, on top of the plain one

## Main results

* `Pen.color_plain` — the plain pen has a valid color
-/

namespace BoxArrow

/-- The pattern of a line. -/
inductive LinePattern
  | solid
  | dashed
  | dotted
  deriving DecidableEq, Repr, Inhabited

namespace LinePattern

/-- The name of the pattern. -/
def name : LinePattern → String
  | solid => "solid"
  | dashed => "dashed"
  | dotted => "dotted"

/-- The lengths of the strokes and gaps, nothing for a solid line. -/
def dashes : LinePattern → Option String
  | solid => none
  | dashed => some "6 4"
  | dotted => some "2 4"

/-- The pattern that a value names, ASCII case aside. -/
def read (key value : String) : Except ValueError LinePattern :=
  match Text.asciiLower value.toList with
  | "solid" => .ok solid
  | "dashed" => .ok dashed
  | "dotted" => .ok dotted
  | _ => .error (.invalid key value .notPattern)

end LinePattern

/-- How a connection is drawn. -/
structure Pen where
  pattern : LinePattern
  color : Color
  width : Float32
  /-- Whether there is an arrowhead at the start. -/
  startHead : Bool
  /-- Whether there is an arrowhead at the end. -/
  endHead : Bool
  deriving Repr, Inhabited

namespace Pen

/-- The pen of a connection without a block: a solid dark line with one arrowhead. -/
def plain : Pen := ⟨.solid, ⟨"#1f2937", 1⟩, 2, false, true⟩

/-- The width of a line, which is a positive integer. -/
def readWidth (key value : String) : Except ValueError Float32 := do
  let n ← readInteger key value
  if n ≤ 0 then throw (.invalid key value .strokeNotPositive) else return Float32.ofInt n

/-- The keys of a pen. -/
def schema : Schema Pen :=
  [.of "style" LinePattern.read fun pattern pen => { pen with pattern := pattern },
    .of "color" readColor fun color pen => { pen with color := color },
    .of "width" readWidth fun width pen => { pen with width := width },
    .of "markerStart" readBool fun head pen => { pen with startHead := head },
    .of "markerEnd" readBool fun head pen => { pen with endHead := head }]

/-- The pen that a block sets, on top of the plain one. -/
def ofBlock (text : String) : Except ValueError Pen := schema.read text plain

theorem color_plain : (Color.ofText plain.color.source).toOption.isSome = true := by
  decide +kernel

end Pen

end BoxArrow
