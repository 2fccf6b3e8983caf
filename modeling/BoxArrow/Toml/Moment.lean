import BoxArrow.Decimal.Read

/-!
# Dates and times of day

A moment is a date, a time of day, or a date and a time with at most one space or letter between
them. With both, the distance from universal time can follow. Seconds and their fraction can be
left out.

## Main definitions

* `Toml.isMoment` — whether a word is a moment
-/

namespace BoxArrow.Toml

/-- The number at the start of a text that fills a number of places, and the text after it. -/
def readField? (places : Nat) (text : List Char) : Option (Nat × List Char) :=
  if text.length < places then none
  else (Decimal.readNat? (text.take places)).map (·, text.drop places)

/-- The text after a character that it must start with. -/
def after? (c : Char) : List Char → Option (List Char)
  | [] => none
  | first :: rest => if first = c then some rest else none

/-- Whether a year has a day more than others. -/
def isLeapYear (year : Nat) : Bool := year % 4 = 0 && (year % 100 ≠ 0 || year % 400 = 0)

/-- The number of days of a month. -/
def daysOf (year month : Nat) : Nat :=
  if month = 2 then if isLeapYear year then 29 else 28
  else if month = 4 ∨ month = 6 ∨ month = 9 ∨ month = 11 then 30
  else 31

/-- The text after a date. -/
def afterDate? (text : List Char) : Option (List Char) := do
  let (year, text) ← readField? 4 text
  let (month, text) ← readField? 2 (← after? '-' text)
  let (day, text) ← readField? 2 (← after? '-' text)
  guard (1 ≤ month && month ≤ 12 && 1 ≤ day && day ≤ daysOf year month)
  return text

/-- The text after the hours and minutes of a time of day or of a distance. -/
def afterMinutes? (text : List Char) : Option (List Char) := do
  let (hour, text) ← readField? 2 text
  let (minute, text) ← readField? 2 (← after? ':' text)
  guard (hour ≤ 23 && minute ≤ 59)
  return text

/-- The text after the seconds of a time of day, if there are any. A minute can have a leap
second. -/
def afterSeconds? : List Char → Option (List Char)
  | ':' :: text => do
    let (second, text) ← readField? 2 text
    guard (second ≤ 60)
    match text with
    | '.' :: text =>
      if text.head?.any Char.isDigit then some (text.dropWhile Char.isDigit) else none
    | _ => some text
  | text => some text

/-- The text after a time of day. -/
def afterTime? (text : List Char) : Option (List Char) :=
  (afterMinutes? text).bind afterSeconds?

/-- Whether a text is the distance from universal time, if there is any. -/
def isOffset : List Char → Bool
  | [] | ['Z'] | ['z'] => true
  | '+' :: text | '-' :: text => afterMinutes? text = some []
  | _ => false

/-- Whether a word is a date, a time of day, or both. -/
def isMoment (word : List Char) : Bool :=
  match afterDate? word with
  | none => afterTime? word = some []
  | some [] => true
  | some (c :: text) => (c = 'T' || c = 't' || c = ' ') && (afterTime? text).any isOffset

end BoxArrow.Toml
