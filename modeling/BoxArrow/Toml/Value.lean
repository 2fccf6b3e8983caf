/-!
# Values of a settings file

A file is a table, whose values can be tables again. Tables come about in four ways, and the way
decides how a table may grow later in the file: a header opens a table once, and dotted keys reach
only into tables that no header of their own and no braces have made.

Numbers are taken at face value: a word that has the shape of a number but denotes none is a
faulty value, which a file may hold where nobody looks at it.

## Main definitions

* `Toml.Value` — a number, a truth value, a text, a point in time, an array or a table
* `Toml.Value.isSound` — whether no faulty value is inside a value
* `Toml.Entries.assign?` — a table with the value of one more key
* `Toml.Entries.openTable?`, `Toml.Entries.openNext?` — a table after a header
-/

namespace BoxArrow.Toml

/-- What brought a table about. -/
inductive Origin
  /-- A header with the name of the table. -/
  | header
  /-- A header with the name of a table inside the table. -/
  | implied
  /-- A dotted key. -/
  | dotted
  /-- Braces. -/
  | inline
  deriving DecidableEq, Repr, Inhabited

/-- The value of a key. -/
inductive Value
  | integer (n : Int)
  | float (x : Float)
  | boolean (b : Bool)
  | string (text : String)
  /-- A date, a time of day, or both. -/
  | moment
  | array (items : List Value)
  | table (origin : Origin) (entries : List (String × Value))
  /-- Tables with a header each, all of one name. -/
  | tables (earlier : List (List (String × Value))) (last : List (String × Value))
  /-- What looks like a number but denotes none, or one that is too large. -/
  | faulty
  deriving Inhabited

namespace Value

mutual

/-- Whether no faulty value is inside a value. -/
def isSound : Value → Bool
  | faulty => false
  | array items => areSound items
  | table _ entries => haveSoundValues entries
  | tables earlier last => areSoundTables earlier && haveSoundValues last
  | _ => true

/-- Whether no faulty value is inside the items of an array. -/
def areSound : List Value → Bool
  | [] => true
  | value :: rest => isSound value && areSound rest

/-- Whether no faulty value is inside the values of a table. -/
def haveSoundValues : List (String × Value) → Bool
  | [] => true
  | (_, value) :: rest => isSound value && haveSoundValues rest

/-- Whether no faulty value is inside tables of one name. -/
def areSoundTables : List (List (String × Value)) → Bool
  | [] => true
  | entries :: rest => haveSoundValues entries && areSoundTables rest

end

end Value

/-- The keys of a table with their values, each key once. -/
abbrev Entries := List (String × Value)

/-- A key of one or more parts: the names of the tables on the way, and the name in the last
one. -/
structure Key where
  path : List String
  name : String
  deriving DecidableEq, Repr, Inhabited

namespace Key

/-- All parts of the key. -/
def parts (key : Key) : List String := key.path ++ [key.name]

end Key

namespace Entries

/-- The entries after a change of the value of a name, which is none if the name is new. -/
def alter? (name : String) (change : Option Value → Option Value) : Entries → Option Entries
  | [] => (change none).map fun value => [(name, value)]
  | (other, value) :: rest =>
    if other = name then (change (some value)).map fun value => (other, value) :: rest
    else (alter? name change rest).map ((other, value) :: ·)

/-- A value that is a table, after a change of its entries. A table that is not there is made
first. Of tables of one name the last is meant. Tables between braces are complete, and dotted
keys do not reach into a table with a header. One that a longer header implies becomes theirs. -/
def within? (dotted : Bool) (change : Origin → Entries → Option Entries) :
    Option Value → Option Value
  | none =>
    let origin := if dotted then .dotted else .implied
    (change origin []).map (.table origin)
  | some (.table origin entries) =>
    if origin = .inline ∨ (dotted ∧ origin = .header) then none
    else
      let origin := if dotted then .dotted else origin
      (change origin entries).map (.table origin)
  | some (.tables earlier last) => (change .header last).map (.tables earlier)
  | some _ => none

/-- The entries after a change inside the table that a path leads to. -/
def alterAt? (dotted : Bool) (change : Origin → Entries → Option Entries) :
    List String → Origin → Entries → Option Entries
  | [], origin, entries => change origin entries
  | name :: path, _, entries => alter? name (within? dotted (alterAt? dotted change path)) entries

/-- The value of a name that must be new. -/
def new? (value : Value) : Option Value → Option Value
  | none => some value
  | some _ => none

/-- The entries with one more key. The tables on its way come from dotted keys or from headers
with longer names, and the last of them from dotted keys. -/
def assign? (key : Key) (value : Value) (entries : Entries) : Option Entries :=
  alterAt? true
    (fun origin entries =>
      if key.path ≠ [] ∧ origin ≠ .dotted then none else alter? key.name (new? value) entries)
    key.path .header entries

/-- The entries after the header of a table, which has had none before. -/
def openTable? (key : Key) : Entries → Option Entries :=
  alterAt? false
    (fun _ => alter? key.name fun
      | none => some (.table .header [])
      | some (.table .implied entries) => some (.table .header entries)
      | some _ => none)
    key.path .header

/-- The entries after the header of one more table of a name. -/
def openNext? (key : Key) : Entries → Option Entries :=
  alterAt? false
    (fun _ => alter? key.name fun
      | none => some (.tables [] [])
      | some (.tables earlier last) => some (.tables (earlier ++ [last]) [])
      | some _ => none)
    key.path .header

/-- The entries with one more key in the table that a header has opened. -/
def assignIn? (table : List String) (key : Key) (value : Value) (entries : Entries) :
    Option Entries :=
  alterAt? false (fun _ => assign? key value) table .header entries

end Entries

end BoxArrow.Toml
