/-!
# Maps in insertion order

A map from names to values that lists its entries in the order in which the names were first
inserted. Writing to a name that is present replaces its value and keeps its place.

## Main definitions

* `OrderedMap` — entries with pairwise distinct names
* `OrderedMap.replace` — the map with a value written, and the value that it replaces
* `OrderedMap.insert`, `OrderedMap.get?`, `OrderedMap.keys`, `OrderedMap.values`

## Main results

* `OrderedMap.keys_insert` — inserting a name appends it, or leaves the names as they are
* `OrderedMap.get?_insert` — the last value written to a name is the one that is read
* `OrderedMap.replace_fst` — the value that is replaced is the one that was read before
-/

namespace BoxArrow

universe u

variable {α : Type u}

/-- The entries with `value` stored under `name`, in the place of that name if there is one and at
the end otherwise, and the value that stood in that place. -/
def replaceEntry (name : String) (value : α) :
    List (String × α) → Option α × List (String × α)
  | [] => (none, [(name, value)])
  | entry :: entries =>
    if entry.1 = name then (some entry.2, (name, value) :: entries)
    else (replaceEntry name value entries).map id (entry :: ·)

/-- The entries with `value` stored under `name`. -/
def putEntry (name : String) (value : α) (entries : List (String × α)) : List (String × α) :=
  (replaceEntry name value entries).2

theorem putEntry_nil (name : String) (value : α) : putEntry name value [] = [(name, value)] := rfl

theorem putEntry_cons (name : String) (value : α) (entry : String × α)
    (entries : List (String × α)) :
    putEntry name value (entry :: entries) =
      if entry.1 = name then (name, value) :: entries
      else entry :: putEntry name value entries := by
  rw [putEntry, replaceEntry]
  split <;> rfl

theorem replaceEntry_fst (name : String) (value : α) (entries : List (String × α)) :
    (replaceEntry name value entries).1 = (entries.find? (·.1 = name)).map Prod.snd := by
  induction entries with
  | nil => rfl
  | cons entry entries ih =>
    rw [replaceEntry]
    by_cases h : entry.1 = name
    · simp [h]
    · simpa [h] using ih

theorem map_fst_putEntry (name : String) (value : α) (entries : List (String × α)) :
    (putEntry name value entries).map Prod.fst =
      if name ∈ entries.map Prod.fst then entries.map Prod.fst
      else entries.map Prod.fst ++ [name] := by
  induction entries with
  | nil => simp [putEntry_nil]
  | cons entry entries ih =>
    by_cases h : entry.1 = name
    · simp [putEntry_cons, h]
    · have h' : ¬ name = entry.1 := fun e => h e.symm
      simp only [putEntry_cons, h, if_false, List.map_cons, ih, List.mem_cons, h', false_or]
      split <;> simp

/-- A finite map from names to values, in order of first insertion. -/
structure OrderedMap (α : Type u) where
  /-- The names with their values, oldest name first. -/
  entries : List (String × α)
  /-- No name is listed twice. -/
  nodup : (entries.map Prod.fst).Nodup
  deriving DecidableEq, Repr

namespace OrderedMap

/-- The map without entries. -/
def empty : OrderedMap α := ⟨[], by simp⟩

instance : Inhabited (OrderedMap α) := ⟨empty⟩

/-- The names, oldest first. -/
def keys (map : OrderedMap α) : List String := map.entries.map Prod.fst

/-- The values, in the order of their names. -/
def values (map : OrderedMap α) : List α := map.entries.map Prod.snd

/-- The value stored under `name`. -/
def get? (map : OrderedMap α) (name : String) : Option α :=
  (map.entries.find? (·.1 = name)).map Prod.snd

/-- Whether a value is stored under `name`. -/
def contains (map : OrderedMap α) (name : String) : Bool := (map.get? name).isSome

theorem nodup_putEntry (map : OrderedMap α) (name : String) (value : α) :
    ((putEntry name value map.entries).map Prod.fst).Nodup := by
  rw [map_fst_putEntry]
  split
  · exact map.nodup
  · rename_i h
    rw [List.nodup_append]
    exact ⟨map.nodup, by simp, fun a ha b hb => by
      rw [List.mem_singleton] at hb
      exact fun hab => h (hb ▸ hab ▸ ha)⟩

/-- The map with `value` stored under `name`, and the value that was stored there. A name that is
present keeps its place. -/
def replace (map : OrderedMap α) (name : String) (value : α) : Option α × OrderedMap α :=
  ((replaceEntry name value map.entries).1,
    ⟨(replaceEntry name value map.entries).2, map.nodup_putEntry name value⟩)

/-- The map with `value` stored under `name`. -/
def insert (map : OrderedMap α) (name : String) (value : α) : OrderedMap α :=
  (map.replace name value).2

/-- The map that results from inserting the pairs from left to right. -/
def ofList (pairs : List (String × α)) : OrderedMap α :=
  pairs.foldl (fun map pair => map.insert pair.1 pair.2) empty

theorem keys_insert (map : OrderedMap α) (name : String) (value : α) :
    (map.insert name value).keys =
      if name ∈ map.keys then map.keys else map.keys ++ [name] :=
  map_fst_putEntry name value map.entries

theorem find?_putEntry (name other : String) (value : α) (entries : List (String × α)) :
    ((putEntry name value entries).find? (·.1 = other)).map Prod.snd =
      if name = other then some value else (entries.find? (·.1 = other)).map Prod.snd := by
  induction entries with
  | nil => by_cases h : name = other <;> simp [putEntry_nil, h]
  | cons entry entries ih =>
    by_cases h : entry.1 = name
    · by_cases h' : name = other
      · simp [putEntry_cons, h, h']
      · simp [putEntry_cons, h, h']
    · by_cases h' : entry.1 = other
      · have hne : ¬ name = other := fun e => h (h'.trans e.symm)
        rw [putEntry_cons, if_neg h, List.find?_cons_of_pos (by simpa using h'), if_neg hne,
          List.find?_cons_of_pos (by simpa using h')]
      · simp [putEntry_cons, h, h', ih]

theorem get?_insert (map : OrderedMap α) (name other : String) (value : α) :
    (map.insert name value).get? other = if name = other then some value else map.get? other :=
  find?_putEntry name other value map.entries

/-- The value that is replaced is the one that was read before. -/
theorem replace_fst (map : OrderedMap α) (name : String) (value : α) :
    (map.replace name value).1 = map.get? name :=
  replaceEntry_fst name value map.entries

end OrderedMap

end BoxArrow
