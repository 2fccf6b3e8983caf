import BoxArrow.OrderedMap
import Mathlib.Data.List.Induction
import Mathlib.Data.List.Nodup

/-!
# More on maps in insertion order

## Main definitions

* `OrderedMap.filter` — the entries whose names satisfy a condition, in their order
* `OrderedMap.mapValues` — the entries with other values
* `OrderedMap.overwrite` — the entries with those of another map written over them

## Main results

* `OrderedMap.filter_insert` — writing to a name and leaving out names commute
* `OrderedMap.entries_ofList` — pairs with distinct names are the entries of their map
* `OrderedMap.get?_ofList` — a map of pairs reads the last pair of a name
* `OrderedMap.keys_ofList` — and lists the names in the order in which they first occur
* `OrderedMap.keys_overwrite`, `OrderedMap.get?_overwrite` — a map written over another one leaves
  its names in place and adds new ones behind them
-/

namespace BoxArrow

universe u

variable {α : Type u}

/-- If no two elements have the same key, a key finds the only element that has it. -/
theorem find?_eq_some_iff_of_nodup {key : α → String} {list : List α}
    (h : (list.map key).Nodup) {k : String} {a : α} :
    list.find? (fun a => key a = k) = some a ↔ a ∈ list ∧ key a = k := by
  constructor
  · intro hfind
    have hkey := List.find?_some hfind
    exact ⟨List.mem_of_find?_eq_some hfind, of_decide_eq_true hkey⟩
  · rintro ⟨hmem, rfl⟩
    cases hfind : list.find? fun b => key b = key a with
    | none => exact absurd (decide_eq_true rfl) (List.find?_eq_none.1 hfind a hmem)
    | some b =>
      have hkey := List.find?_some hfind
      have heq : key b = key a := of_decide_eq_true hkey
      rw [List.inj_on_of_nodup_map h (List.mem_of_find?_eq_some hfind) hmem heq]

/-- Such elements are found in any order. -/
theorem find?_eq_of_perm {key : α → String} {list list' : List α}
    (hperm : list.Perm list') (h : (list.map key).Nodup) (k : String) :
    list.find? (fun a => key a = k) = list'.find? (fun a => key a = k) := by
  refine Option.ext fun a => ?_
  rw [find?_eq_some_iff_of_nodup h, find?_eq_some_iff_of_nodup ((hperm.map key).nodup_iff.1 h),
    hperm.mem_iff]

theorem filter_putEntry (p : String → Bool) (name : String) (value : α)
    (entries : List (String × α)) :
    (putEntry name value entries).filter (fun entry => p entry.1) =
      if p name then putEntry name value (entries.filter fun entry => p entry.1)
      else entries.filter fun entry => p entry.1 := by
  induction entries with
  | nil => by_cases hp : p name <;> simp [putEntry_nil, hp]
  | cons entry entries ih =>
    -- The entry of the name is written over in its place, whether it is kept or left out.
    by_cases h : entry.1 = name
    · subst h
      by_cases hp : p entry.1 <;> simp [putEntry_cons, hp]
    · by_cases he : p entry.1 <;> by_cases hp : p name <;> simp [putEntry_cons, h, he, hp, ih]

theorem putEntry_of_notMem {name : String} {value : α} {entries : List (String × α)}
    (h : name ∉ entries.map Prod.fst) :
    putEntry name value entries = entries ++ [(name, value)] := by
  induction entries with
  | nil => rfl
  | cons entry entries ih =>
    rw [List.map_cons, List.mem_cons, not_or] at h
    rw [putEntry_cons, if_neg fun e => h.1 e.symm, ih h.2]
    rfl

namespace OrderedMap

@[ext] theorem ext {a b : OrderedMap α} (h : a.entries = b.entries) : a = b := by
  cases a
  cases b
  cases h
  rfl

/-- The entries whose names satisfy a condition, in their order. -/
def filter (p : String → Bool) (map : OrderedMap α) : OrderedMap α where
  entries := map.entries.filter fun entry => p entry.1
  nodup := map.nodup.sublist (List.filter_sublist.map _)

theorem filter_insert (p : String → Bool) (map : OrderedMap α) (name : String) (value : α) :
    (map.insert name value).filter p =
      if p name then (map.filter p).insert name value else map.filter p := by
  apply OrderedMap.ext
  rw [apply_ite OrderedMap.entries]
  exact filter_putEntry p name value map.entries

theorem get?_filter (p : String → Bool) (map : OrderedMap α) (name : String) :
    (map.filter p).get? name = if p name then map.get? name else none := by
  unfold get? filter
  rw [List.find?_filter]
  by_cases h : p name
  · rw [if_pos h]
    congr 2
    funext entry
    by_cases e : entry.1 = name <;> simp [e, h]
  · rw [if_neg h, Option.map_eq_none_iff, List.find?_eq_none]
    intro entry _ hentry
    simp only [Bool.decide_and, Bool.decide_eq_true, Bool.and_eq_true, decide_eq_true_eq] at hentry
    exact h (hentry.2 ▸ hentry.1)

@[simp] theorem get?_empty (name : String) : (empty : OrderedMap α).get? name = none := rfl

theorem get?_of_mem {map : OrderedMap α} {entry : String × α} (h : entry ∈ map.entries) :
    map.get? entry.1 = some entry.2 := by
  rw [get?, (find?_eq_some_iff_of_nodup map.nodup).2 ⟨h, rfl⟩]
  rfl

theorem foldl_insert_entries (map : OrderedMap α) {pairs : List (String × α)}
    (h : (map.keys ++ pairs.map Prod.fst).Nodup) :
    (pairs.foldl (fun map pair => map.insert pair.1 pair.2) map).entries =
      map.entries ++ pairs := by
  induction pairs generalizing map with
  | nil => simp
  | cons pair pairs ih =>
    -- The name is a new one, so its entry is put at the end.
    have hnew : pair.1 ∉ map.keys := fun hmem =>
      (List.nodup_append.1 h).2.2 _ hmem _ List.mem_cons_self rfl
    have hentries : (map.insert pair.1 pair.2).entries = map.entries ++ [pair] :=
      putEntry_of_notMem hnew
    rw [List.foldl_cons, ih, hentries, List.append_assoc, List.singleton_append]
    rw [keys, hentries]
    simpa [keys] using h

/-- Pairs with distinct names are the entries of their map. -/
theorem entries_ofList {pairs : List (String × α)} (h : (pairs.map Prod.fst).Nodup) :
    (ofList pairs).entries = pairs :=
  foldl_insert_entries empty h

theorem get?_foldl_insert (map : OrderedMap α) (pairs : List (String × α)) (name : String) :
    (pairs.foldl (fun map pair => map.insert pair.1 pair.2) map).get? name =
      ((pairs.reverse.find? (·.1 = name)).map Prod.snd).or (map.get? name) := by
  induction pairs generalizing map with
  | nil => rfl
  | cons pair pairs ih =>
    rw [List.foldl_cons, ih, get?_insert, List.reverse_cons, List.find?_append]
    by_cases h : pair.1 = name
    · cases pairs.reverse.find? (·.1 = name) <;> simp [h]
    · cases pairs.reverse.find? (·.1 = name) <;> simp [h]

theorem ofList_concat (pairs : List (String × α)) (pair : String × α) :
    ofList (pairs ++ [pair]) = (ofList pairs).insert pair.1 pair.2 :=
  List.foldl_append

/-- A map of pairs reads the last pair of a name. -/
theorem get?_ofList (pairs : List (String × α)) (name : String) :
    (ofList pairs).get? name = (pairs.reverse.find? (·.1 = name)).map Prod.snd := by
  rw [ofList, get?_foldl_insert, get?_empty, Option.or_none]

/-- The names of a map of pairs stand in the order in which they first occur. -/
theorem keys_ofList (pairs : List (String × α)) :
    (ofList pairs).keys = (pairs.map Prod.fst).eraseDups := by
  induction pairs using List.reverseRecOn with
  | nil => rfl
  | append_singleton pairs pair ih =>
    rw [ofList_concat, keys_insert, ih, List.map_append, List.eraseDups_append]
    by_cases h : pair.1 ∈ pairs.map Prod.fst
    · rw [if_pos (List.mem_eraseDups.2 h)]
      simp [List.removeAll, List.mem_map.1 h]
    · rw [if_neg fun hmem => h (List.mem_eraseDups.1 hmem)]
      simp [List.removeAll, h, List.eraseDups_cons]

theorem filter_ofList (p : String → Bool) (pairs : List (String × α)) :
    (ofList pairs).filter p = ofList (pairs.filter fun pair => p pair.1) := by
  induction pairs using List.reverseRecOn with
  | nil => rfl
  | append_singleton pairs pair ih =>
    rw [ofList_concat, filter_insert, ih, List.filter_append]
    by_cases h : p pair.1 <;> simp [h, ofList_concat]

theorem mem_of_mem_ofList {pairs : List (String × α)} {entry : String × α}
    (h : entry ∈ (ofList pairs).entries) : entry ∈ pairs := by
  have hget := get?_of_mem h
  rw [get?_ofList, Option.map_eq_some_iff] at hget
  obtain ⟨pair, hfind, hvalue⟩ := hget
  have hkey := List.find?_some hfind
  have hname : pair.1 = entry.1 := of_decide_eq_true hkey
  rw [← Prod.ext hname hvalue]
  exact List.mem_reverse.1 (List.mem_of_find?_eq_some hfind)

/-- Maps with the same names in the same order and the same values are equal. -/
theorem ext_get? {a b : OrderedMap α} (hkeys : a.keys = b.keys)
    (hget : ∀ name, a.get? name = b.get? name) : a = b := by
  have hentries : ∀ map : OrderedMap α,
      map.entries.map some = map.keys.map fun name => (map.get? name).map (name, ·) := by
    intro map
    rw [keys, List.map_map]
    exact List.map_congr_left fun entry hentry => by simp [get?_of_mem hentry]
  have hmap : a.entries.map some = b.entries.map some := by
    rw [hentries, hentries, hkeys]
    exact List.map_congr_left fun name _ => by rw [hget]
  exact OrderedMap.ext (List.map_injective_iff.2 (fun _ _ => Option.some.inj) hmap)

/-- The entries with other values. -/
def mapValues {β : Type u} (f : α → β) (map : OrderedMap α) : OrderedMap β where
  entries := map.entries.map (Prod.map id f)
  nodup := by
    rw [List.map_map]
    exact map.nodup

theorem mapValues_insert {β : Type u} (f : α → β) (map : OrderedMap α) (name : String)
    (value : α) :
    (map.insert name value).mapValues f = (map.mapValues f).insert name (f value) := by
  have hput : ∀ entries : List (String × α),
      (putEntry name value entries).map (Prod.map id f) =
        putEntry name (f value) (entries.map (Prod.map id f)) := by
    intro entries
    induction entries with
    | nil => rfl
    | cons entry entries ih =>
      by_cases h : entry.1 = name <;> simp [putEntry_cons, h, ih]
  exact OrderedMap.ext (hput map.entries)

theorem mapValues_ofList {β : Type u} (f : α → β) (pairs : List (String × α)) :
    (ofList pairs).mapValues f = ofList (pairs.map (Prod.map id f)) := by
  rw [ofList, ofList, List.foldl_map]
  exact (List.foldl_hom (mapValues f) fun map pair => (mapValues_insert f map _ _).symm).symm

theorem filter_mapValues {β : Type u} (f : α → β) (p : String → Bool) (map : OrderedMap α) :
    (map.filter p).mapValues f = (map.mapValues f).filter p :=
  OrderedMap.ext (by
    simp only [mapValues, filter]
    rw [List.filter_map]
    rfl)

theorem keys_mapValues {β : Type u} (f : α → β) (map : OrderedMap α) :
    (map.mapValues f).keys = map.keys := by
  rw [keys, mapValues, List.map_map]
  rfl

theorem get?_mapValues {β : Type u} (f : α → β) (map : OrderedMap α) (name : String) :
    (map.mapValues f).get? name = (map.get? name).map f := by
  rw [get?, mapValues, List.find?_map, Option.map_map, get?, Option.map_map]
  rfl

/-- The entries with those of another map written over them. A name that is present keeps its
place, and a new one comes last. -/
def overwrite (map other : OrderedMap α) : OrderedMap α :=
  other.entries.foldl (fun map entry => map.insert entry.1 entry.2) map

theorem get?_overwrite (map other : OrderedMap α) (name : String) :
    (map.overwrite other).get? name = (other.get? name).or (map.get? name) := by
  have hreverse : other.entries.reverse.find? (·.1 = name) = other.entries.find? (·.1 = name) :=
    find?_eq_of_perm (List.reverse_perm _) (by
      rw [List.map_reverse, List.nodup_reverse]
      exact other.nodup) name
  rw [overwrite, get?_foldl_insert, hreverse]
  rfl

theorem keys_foldl_insert (map : OrderedMap α) {pairs : List (String × α)}
    (h : (pairs.map Prod.fst).Nodup) :
    (pairs.foldl (fun map pair => map.insert pair.1 pair.2) map).keys =
      map.keys ++ (pairs.map Prod.fst).filter (· ∉ map.keys) := by
  induction pairs generalizing map with
  | nil => simp
  | cons pair pairs ih =>
    obtain ⟨hnew, h⟩ := List.nodup_cons.1 h
    rw [List.foldl_cons, ih _ h, keys_insert, List.map_cons]
    by_cases hmem : pair.1 ∈ map.keys
    · simp [hmem]
    · have hfilter : (pairs.map Prod.fst).filter (· ∉ map.keys ++ [pair.1]) =
          (pairs.map Prod.fst).filter (· ∉ map.keys) := by
        refine List.filter_congr fun name hname => ?_
        have hne : name ≠ pair.1 := fun e => hnew (e ▸ hname)
        simp [hne]
      rw [if_neg hmem, hfilter, List.filter_cons_of_pos (by simpa using hmem), List.append_assoc]
      rfl

theorem keys_overwrite (map other : OrderedMap α) :
    (map.overwrite other).keys = map.keys ++ other.keys.filter (· ∉ map.keys) :=
  keys_foldl_insert map other.nodup

theorem overwrite_insert (map other : OrderedMap α) (name : String) (value : α) :
    map.overwrite (other.insert name value) = (map.overwrite other).insert name value := by
  refine ext_get? ?_ fun name' => ?_
  · rw [keys_overwrite, keys_insert, keys_insert, keys_overwrite]
    by_cases hother : name ∈ other.keys
    · by_cases hmap : name ∈ map.keys <;> simp [hother, hmap]
    · by_cases hmap : name ∈ map.keys <;> simp [hother, hmap]
  · rw [get?_overwrite, get?_insert, get?_insert, get?_overwrite]
    by_cases h : name = name' <;> simp [h]

/-- Writing pairs over a map one by one is writing over it the map that they make up. -/
theorem foldl_insert_eq_overwrite (map : OrderedMap α) (pairs : List (String × α)) :
    pairs.foldl (fun map pair => map.insert pair.1 pair.2) map = map.overwrite (ofList pairs) := by
  induction pairs using List.reverseRecOn with
  | nil => rfl
  | append_singleton pairs pair ih =>
    rw [List.foldl_append, ih, ofList_concat, overwrite_insert]
    rfl

end OrderedMap

end BoxArrow
