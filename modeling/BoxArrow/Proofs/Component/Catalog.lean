import BoxArrow.Component.Catalog
import BoxArrow.Proofs.OrderedMap

/-!
# What a catalog holds

Types are added to a catalog one after the other, on top of those that are always there. What the
catalog answers then is told by the history of these additions. Under a tag it has the type that was
added last with the same lowercase tag. The tags are listed where they were first added and spelled
as they were last, and an addition hands over what the catalog had under its tag just before.

A declaration takes the type of its tag, unless there is none or one that cannot have the body that
is written. A container then takes what is the type of machines at that time. Everything else is a
plain rectangle, which is no entry of the catalog and cannot be replaced.

## Main definitions

* `Catalog.replaceAll` — a run of additions, with the types that they replace
* `Catalog.IsLatest` — the type that was added last with a tag
* `Catalog.IsTypeFor` — the type that a declaration takes, told by the history
* `Catalog.Holds` — a catalog has come about by some additions

## Main results

* `Catalog.Holds.replaceAll` — a run of additions makes the history longer
* `Catalog.replaceAll_builtIn` — what a catalog answers after a run of additions
-/

namespace BoxArrow

namespace Catalog

open Text (lowercase)

/-- The types that some additions replace, and the catalog after all of them. -/
def replaceAll : List ComponentType → Catalog → List (Option ComponentType) × Catalog
  | [], catalog => ([], catalog)
  | type :: types, catalog =>
    Prod.map ((catalog.replace type).1 :: ·) id (replaceAll types (catalog.replace type).2)

/-- The type that was added last among those with the same lowercase tag. -/
def IsLatest (history : List ComponentType) (tag : String) (type : ComponentType) : Prop :=
  ∃ before after, history = before ++ type :: after ∧ lowercase type.tag = lowercase tag ∧
    ∀ later ∈ after, lowercase later.tag ≠ lowercase tag

/-- A tag is not written or not known, or its type cannot have the body that is written. -/
def IsUnsuited (history : List ComponentType) (tag : Option String) (isContainer : Bool) : Prop :=
  ∀ name type, tag = some name → IsLatest history name type →
    isContainer = true ∧ type.canContain = false

/-- The type that a declaration takes. -/
inductive IsTypeFor (history : List ComponentType) :
    Option String → Bool → ComponentType → Prop
  | own {name : String} {type : ComponentType} {isContainer : Bool} : IsLatest history name type →
      isContainer = false ∨ type.canContain = true →
      IsTypeFor history (some name) isContainer type
  | frame {tag : Option String} {type : ComponentType} : IsUnsuited history tag true →
      IsLatest history "VM" type → IsTypeFor history tag true type
  | plain {tag : Option String} {isContainer : Bool} : IsUnsuited history tag isContainer →
      (isContainer = true → ∀ type ∈ history, lowercase type.tag ≠ lowercase "VM") →
      IsTypeFor history tag isContainer .rectangle

/-- A catalog has come about by adding some types to the empty one. -/
def Holds (catalog : Catalog) (history : List ComponentType) : Prop :=
  catalog.types = OrderedMap.ofList (history.map fun type => (lowercase type.tag, type))

variable {catalog : Catalog} {history types : List ComponentType} {type : ComponentType}
  {tag : String}

theorem isLatest_iff_find? :
    IsLatest history tag type ↔
      history.reverse.find? (fun type => lowercase type.tag = lowercase tag) = some type := by
  rw [List.find?_eq_some_iff_append]
  constructor
  · rintro ⟨before, after, rfl, htag, hafter⟩
    refine ⟨decide_eq_true htag, after.reverse, before.reverse, by simp, fun later hlater => ?_⟩
    simpa using hafter later (List.mem_reverse.1 hlater)
  · rintro ⟨htag, after, before, hhistory, hafter⟩
    refine ⟨before.reverse, after.reverse, ?_, of_decide_eq_true htag, fun later hlater => ?_⟩
    · simpa using congrArg List.reverse hhistory
    · simpa using hafter later (List.mem_reverse.1 hlater)

theorem IsLatest.unique {type' : ComponentType} (h : IsLatest history tag type)
    (h' : IsLatest history tag type') : type = type' :=
  Option.some.inj ((isLatest_iff_find?.1 h).symm.trans (isLatest_iff_find?.1 h'))

/-- An unsuited type is not taken. -/
theorem IsUnsuited.not_suited {isContainer : Bool} (h : IsUnsuited history (some tag) isContainer)
    (hlatest : IsLatest history tag type) : ¬(isContainer = false ∨ type.canContain = true) := by
  obtain ⟨hcontainer, hbody⟩ := h tag type rfl hlatest
  simp [hcontainer, hbody]

theorem IsLatest.not_forall_ne (h : IsLatest history tag type) :
    ¬∀ type ∈ history, lowercase type.tag ≠ lowercase tag := by
  obtain ⟨before, after, rfl, htag, -⟩ := h
  exact fun hnone => hnone type (by simp) htag

/-- The history tells one type for every declaration. -/
theorem IsTypeFor.unique {tag : Option String} {isContainer : Bool} {type' : ComponentType}
    (h : IsTypeFor history tag isContainer type) (h' : IsTypeFor history tag isContainer type') :
    type = type' := by
  cases h with
  | own hlatest hsuited =>
    cases h' with
    | own hlatest' => exact hlatest.unique hlatest'
    | frame hunsuited | plain hunsuited => exact absurd hsuited (hunsuited.not_suited hlatest)
  | frame hunsuited hlatest =>
    cases h' with
    | own hlatest' hsuited => exact absurd hsuited (hunsuited.not_suited hlatest')
    | frame _ hlatest' => exact hlatest.unique hlatest'
    | plain _ hnone => exact absurd (hnone rfl) hlatest.not_forall_ne
  | plain hunsuited hnone =>
    cases h' with
    | own hlatest hsuited => exact absurd hsuited (hunsuited.not_suited hlatest)
    | frame _ hlatest => exact absurd (hnone rfl) hlatest.not_forall_ne
    | plain => rfl

/-! ### Additions -/

/-- The type that is replaced is the one that was found before. -/
theorem replace_fst (catalog : Catalog) (type : ComponentType) :
    (catalog.replace type).1 = catalog.get? type.tag :=
  OrderedMap.replace_fst _ _ _

theorem holds_empty : empty.Holds [] := rfl

/-- One more addition makes the history longer by one type. -/
theorem Holds.add (h : catalog.Holds history) (type : ComponentType) :
    (catalog.add type).Holds (history ++ [type]) := by
  rw [Holds, List.map_append, List.map_singleton, OrderedMap.ofList_concat, ← h]
  rfl

theorem Holds.foldl_add (h : catalog.Holds history) (types : List ComponentType) :
    (types.foldl Catalog.add catalog).Holds (history ++ types) := by
  induction types generalizing catalog history with
  | nil => rwa [List.append_nil]
  | cons type types ih =>
    rw [List.append_cons]
    exact ih (h.add type)

theorem holds_builtIn : builtIn.Holds ComponentType.builtIn :=
  holds_empty.foldl_add ComponentType.builtIn

theorem replaceAll_append (types types' : List ComponentType) (catalog : Catalog) :
    replaceAll (types ++ types') catalog =
      Prod.map ((replaceAll types catalog).1 ++ ·) id
        (replaceAll types' (replaceAll types catalog).2) := by
  induction types generalizing catalog with
  | nil => rfl
  | cons type types ih =>
    rw [List.cons_append, replaceAll, ih]
    rfl

theorem length_replaceAll (types : List ComponentType) (catalog : Catalog) :
    (replaceAll types catalog).1.length = types.length := by
  induction types generalizing catalog with
  | nil => rfl
  | cons type types ih => exact congrArg (· + 1) (ih _)

/-- A run of additions makes the history longer by its types. -/
theorem Holds.replaceAll (h : catalog.Holds history) (types : List ComponentType) :
    (replaceAll types catalog).2.Holds (history ++ types) := by
  induction types generalizing catalog history with
  | nil => rwa [List.append_nil]
  | cons type types ih =>
    rw [List.append_cons]
    exact ih (h.add type)

/-- An addition hands over what the catalog had under its tag just before. -/
theorem getElem?_replaceAll (before after : List ComponentType) (type : ComponentType)
    (catalog : Catalog) :
    (replaceAll (before ++ type :: after) catalog).1[before.length]? =
      some ((replaceAll before catalog).2.get? type.tag) := by
  have hlength := length_replaceAll before catalog
  rw [replaceAll_append]
  change ((replaceAll before catalog).1 ++ _)[before.length]? = _
  rw [List.getElem?_append_right (Nat.le_of_eq hlength), hlength, Nat.sub_self]
  exact congrArg some (replace_fst _ type)

/-! ### Answers -/

namespace Holds

/-- Under a tag is the type that was added last with it. -/
theorem get?_eq_some_iff (h : catalog.Holds history) :
    catalog.get? tag = some type ↔ IsLatest history tag type := by
  rw [Catalog.get?, h, OrderedMap.get?_ofList, isLatest_iff_find?, ← List.map_reverse,
    List.find?_map, Option.map_map]
  change Option.map id _ = _ ↔ _
  rw [Option.map_id]
  rfl

theorem get?_eq_none_iff (h : catalog.Holds history) :
    catalog.get? tag = none ↔ ∀ type ∈ history, lowercase type.tag ≠ lowercase tag := by
  rw [Catalog.get?, h, OrderedMap.get?_ofList, ← List.map_reverse, List.find?_map,
    Option.map_eq_none_iff, Option.map_eq_none_iff, List.find?_eq_none]
  simp

/-- An entry stands under the lowercase form of its tag. -/
theorem eq_lowercase_of_mem (h : catalog.Holds history) {entry : String × ComponentType}
    (hentry : entry ∈ catalog.types.entries) : lowercase entry.2.tag = entry.1 := by
  rw [h] at hentry
  obtain ⟨type, -, rfl⟩ := List.mem_map.1 (OrderedMap.mem_of_mem_ofList hentry)
  rfl

/-- The tags are listed where they were first added. -/
theorem map_lowercase_tags (h : catalog.Holds history) :
    catalog.tags.map lowercase = (history.map fun type => lowercase type.tag).eraseDups := by
  have hkeys : catalog.tags.map lowercase = catalog.types.keys := by
    rw [tags, OrderedMap.values, OrderedMap.keys, List.map_map, List.map_map]
    exact List.map_congr_left fun entry hentry => h.eq_lowercase_of_mem hentry
  rw [hkeys, h, OrderedMap.keys_ofList, List.map_map]
  rfl

/-- The tags are spelled as they were last added. -/
theorem exists_isLatest_of_mem_tags (h : catalog.Holds history) (htag : tag ∈ catalog.tags) :
    ∃ type, IsLatest history tag type ∧ type.tag = tag := by
  obtain ⟨type, htype, rfl⟩ := List.mem_map.1 htag
  obtain ⟨entry, hentry, rfl⟩ := List.mem_map.1 htype
  refine ⟨entry.2, h.get?_eq_some_iff.1 ?_, rfl⟩
  rw [Catalog.get?, h.eq_lowercase_of_mem hentry]
  exact OrderedMap.get?_of_mem hentry

theorem isTypeFor_fallback (h : catalog.Holds history) {tag : Option String} {isContainer : Bool}
    (hunsuited : IsUnsuited history tag isContainer) :
    IsTypeFor history tag isContainer (catalog.fallback isContainer) := by
  unfold fallback
  cases isContainer with
  | false => exact .plain hunsuited nofun
  | true =>
    rw [if_pos rfl]
    cases hframe : catalog.get? containerTag with
    | none => exact .plain hunsuited fun _ => h.get?_eq_none_iff.1 hframe
    | some frame => exact .frame hunsuited (h.get?_eq_some_iff.1 hframe)

/-- A declaration takes the type that the history tells. -/
theorem isTypeFor_typeFor (h : catalog.Holds history) (tag : Option String) (isContainer : Bool) :
    IsTypeFor history tag isContainer (catalog.typeFor tag isContainer) := by
  unfold typeFor
  split
  · rename_i type hget
    obtain ⟨name, rfl, hget⟩ := Option.bind_eq_some_iff.1 hget
    split
    · rename_i hsuited
      exact .own (h.get?_eq_some_iff.1 hget) (by simpa using hsuited)
    · rename_i hsuited
      refine h.isTypeFor_fallback fun name' type' hname hlatest => ?_
      cases hname
      obtain rfl := Option.some.inj (hget.symm.trans (h.get?_eq_some_iff.2 hlatest))
      simpa using hsuited
  · rename_i hget
    refine h.isTypeFor_fallback fun name type hname hlatest => ?_
    subst hname
    cases hget.symm.trans (h.get?_eq_some_iff.2 hlatest)

theorem typeFor_eq_iff (h : catalog.Holds history) {tag : Option String} {isContainer : Bool} :
    catalog.typeFor tag isContainer = type ↔ IsTypeFor history tag isContainer type :=
  ⟨fun htype => htype ▸ h.isTypeFor_typeFor tag isContainer,
    (h.isTypeFor_typeFor tag isContainer).unique⟩

end Holds

/-- What a catalog answers after a run of additions on top of the types that are always there. -/
theorem replaceAll_builtIn (types : List ComponentType) :
    let history := ComponentType.builtIn ++ types
    let catalog := (replaceAll types builtIn).2
    let replaced := (replaceAll types builtIn).1
    (∀ tag type, catalog.get? tag = some type ↔ IsLatest history tag type) ∧
    (∀ tag, catalog.get? tag = none ↔ ∀ type ∈ history, lowercase type.tag ≠ lowercase tag) ∧
    catalog.tags.map lowercase = (history.map fun type => lowercase type.tag).eraseDups ∧
    (∀ tag ∈ catalog.tags, ∃ type, IsLatest history tag type ∧ type.tag = tag) ∧
    replaced.length = types.length ∧
    (∀ before type after, types = before ++ type :: after →
      replaced[before.length]? = some ((replaceAll before builtIn).2.get? type.tag)) ∧
    ∀ tag isContainer type,
      catalog.typeFor tag isContainer = type ↔ IsTypeFor history tag isContainer type := by
  have h := holds_builtIn.replaceAll types
  refine ⟨fun tag type => h.get?_eq_some_iff, fun tag => h.get?_eq_none_iff, h.map_lowercase_tags,
    fun tag => h.exists_isLatest_of_mem_tags, length_replaceAll types builtIn, ?_,
    fun tag isContainer type => h.typeFor_eq_iff⟩
  rintro before type after rfl
  exact getElem?_replaceAll before after type builtIn

/-- A type with the tag of machines in another spelling takes the containers of an unknown type. -/
example :
    let catalog := (replaceAll [{ ComponentType.machine with tag := "vm" }] (empty.add .machine)).2
    catalog.tags = ["vm"] ∧ (catalog.typeFor (some "Cloud") true).tag = "vm" := by
  decide +kernel

end Catalog

end BoxArrow
