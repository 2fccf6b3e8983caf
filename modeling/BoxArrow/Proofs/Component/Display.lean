import BoxArrow.Proofs.Item.Meaning

/-!
# What a component shows

Any number of blocks is offered to a component. A block with a value that cannot be read is refused,
and it is as if it had never been offered, whatever else it says. The others are applied, and the
last of them that has an item for a property tells its value, by the last such item. A property that
no block is about shows its default, if it has one.

## Main definitions

* `DisplayRecord.amendAll`, `DisplayRecord.applied` — the properties after some blocks, and the
  blocks among them that are not refused
* `DisplayField.IsSetIn`, `DisplayField.Shows` — a block is about a property, and the value that the
  property shows after some blocks
* `ComponentType.IsSound` — the properties of a type have keys of their own and readable defaults

## Main results

* `DisplayRecord.amendAll_eq_assign` — refused blocks are left out, the others are read as one
* `DisplayRecord.applied_eq_filter` — whether a block is refused is told by that block alone
* `Item.last?_flatMap_eq_some_iff` — the last item of a key stands in the last block that has one
* `ComponentType.values_amendAll` — what a component shows after any blocks
-/

namespace BoxArrow

namespace Item

variable {key : String} {items : List Item} {item : Item} {texts : List String}

theorem last?_eq_none_iff : last? key items = none ↔ ∀ item ∈ items, item.key ≠ key := by
  simp [last?]

theorem mem_of_last?_eq_some (h : last? key items = some item) : item ∈ items ∧ item.key = key := by
  simpa using List.mem_filter.1 (List.mem_of_getLast? h)

theorem last?_flatMap (key : String) (texts : List String) :
    last? key (texts.flatMap ofBlock) =
      texts.reverse.findSome? fun text => last? key (ofBlock text) := by
  rw [last?, List.filter_flatMap, List.getLast?_flatMap]
  rfl

/-- The last item of a key stands in the last block that has one, and is the last one there. -/
theorem last?_flatMap_eq_some_iff :
    last? key (texts.flatMap ofBlock) = some item ↔
      ∃ before text after, texts = before ++ text :: after ∧
        last? key (ofBlock text) = some item ∧
        ∀ later ∈ after, last? key (ofBlock later) = none := by
  -- The search goes through the blocks from behind, so what it leaves out are the later ones.
  rw [last?_flatMap, List.findSome?_eq_some_iff]
  constructor
  · rintro ⟨after, text, before, htexts, hitem, hafter⟩
    refine ⟨before.reverse, text, after.reverse, ?_, hitem, by simpa using hafter⟩
    simpa using congrArg List.reverse htexts
  · rintro ⟨before, text, after, rfl, hitem, hafter⟩
    exact ⟨after.reverse, text, before.reverse, by simp, hitem, by simpa using hafter⟩

theorem exists_of_last?_flatMap (h : last? key (texts.flatMap ofBlock) = some item) :
    ∃ text ∈ texts, item ∈ ofBlock text ∧ item.key = key := by
  obtain ⟨hitem, hkey⟩ := mem_of_last?_eq_some h
  obtain ⟨text, htext, hitem⟩ := List.mem_flatMap.1 hitem
  exact ⟨text, htext, hitem, hkey⟩

end Item

namespace DisplayField

/-- A block has an item for the property. -/
def IsSetIn (field : DisplayField) (text : String) : Prop :=
  ∃ item ∈ Item.ofBlock text, item.key = field.key

instance (field : DisplayField) (text : String) : Decidable (field.IsSetIn text) :=
  inferInstanceAs (Decidable (∃ item ∈ Item.ofBlock text, _))

/-- What the property shows after some blocks. -/
inductive Shows (field : DisplayField) (texts : List String) : DisplayValue → Prop
  /-- The value is the one of the last item for the property, in the last block that has one. -/
  | ofBlock {before after : List String} {text : String} {item : Item} {value : DisplayValue}
      (texts_eq : texts = before ++ text :: after)
      (last : Item.last? field.key (Item.ofBlock text) = some item)
      (unset : ∀ later ∈ after, ¬ field.IsSetIn later)
      (read : field.kind.read field.key item.value = .ok value) : field.Shows texts value
  /-- No block is about the property, and the value is its default. -/
  | ofDefault {value : DisplayValue} (unset : ∀ text ∈ texts, ¬ field.IsSetIn text)
      (default : field.defaultValue = some value) : field.Shows texts value

/-- The value of the property after some items. -/
def valueAfter (field : DisplayField) (items : List Item) : Option DisplayValue :=
  (Item.lastValue? field.kind.read field.key items).or field.defaultValue

variable {field : DisplayField} {text : String} {texts : List String} {value : DisplayValue}

theorem not_isSetIn_iff :
    ¬ field.IsSetIn text ↔ Item.last? field.key (Item.ofBlock text) = none := by
  rw [Item.last?_eq_none_iff, IsSetIn]
  push Not
  rfl

end DisplayField

/-- The properties of a type have keys of their own, and defaults that can be read. -/
structure ComponentType.IsSound (type : ComponentType) : Prop where
  nodup : (type.fields.map DisplayField.key).Nodup
  isSome_defaultValue : ∀ field ∈ type.fields, field.defaultValue.isSome = field.default?.isSome

theorem ComponentType.isSound_of_mem_builtIn : ∀ type ∈ builtIn, type.IsSound := by
  have hdefault : ∀ type ∈ builtIn, ∀ field ∈ type.fields,
      field.defaultValue.isSome = field.default?.isSome := by
    decide +kernel
  exact fun type htype => ⟨nodup_keys type htype, hdefault type htype⟩

namespace DisplayRecord

/-- The properties after some blocks, one after the other. A block that is refused leaves them as
they are. -/
def amendAll : DisplayRecord → List String → DisplayRecord
  | record, [] => record
  | record, text :: texts =>
    match record.amend text with
    | .ok record => record.amendAll texts
    | .error _ => record.amendAll texts

/-- The blocks that are not refused when their turn comes. -/
def applied : DisplayRecord → List String → List String
  | _, [] => []
  | record, text :: texts =>
    match record.amend text with
    | .ok record => text :: record.applied texts
    | .error _ => record.applied texts

/-- All values in a block for some properties can be read. -/
def IsReadable (fields : List DisplayField) (text : String) : Prop :=
  ∀ item ∈ Item.ofBlock text, (schema fields).Accepts item

instance (fields : List DisplayField) (text : String) : Decidable (IsReadable fields text) :=
  inferInstanceAs (Decidable (∀ item ∈ Item.ofBlock text, _))

variable {fields : List DisplayField}

/-- The refused blocks might as well not be there. -/
theorem amendAll_applied (record : DisplayRecord) (texts : List String) :
    record.amendAll (record.applied texts) = record.amendAll texts := by
  induction texts generalizing record with
  | nil => rfl
  | cons text texts ih =>
    rw [applied, amendAll]
    cases hamend : record.amend text with
    | ok record' =>
      rw [amendAll, hamend]
      exact ih record'
    | error e => exact ih record

section Runs

variable {record : DisplayRecord} (hkeys : (fields.map DisplayField.key).Nodup)
  (hfields : record.map Prod.fst = fields)
include hkeys hfields

/-- A block sets all of its values, or is refused. -/
theorem amend_cases (text : String) :
    IsReadable fields text ∧ record.amend text = .ok (assign (Item.ofBlock text) record) ∨
      ¬ IsReadable fields text ∧ ∃ e, record.amend text = .error e := by
  rw [amend, hfields]
  exact (assigns hkeys hfields).read_cases text

/-- Whether a block is refused has nothing to do with the blocks before it. -/
theorem applied_eq_filter (texts : List String) :
    record.applied texts = texts.filter (IsReadable fields) := by
  induction texts generalizing record with
  | nil => rfl
  | cons text texts ih =>
    rw [applied]
    obtain ⟨hreadable, hamend⟩ | ⟨hreadable, e, hamend⟩ := amend_cases hkeys hfields text
    · rw [hamend, List.filter_cons_of_pos (by simpa using hreadable),
        ← ih ((map_fst_assign _ record).trans hfields)]
    · rw [hamend, List.filter_cons_of_neg (by simpa using hreadable)]
      exact ih hfields

theorem isReadable_of_mem_applied {texts : List String} :
    ∀ text ∈ record.applied texts, IsReadable fields text := by
  rw [applied_eq_filter hkeys hfields]
  exact fun text htext => of_decide_eq_true (List.mem_filter.1 htext).2

/-- The items of the blocks that are not refused are read as one block. -/
theorem amendAll_eq_assign (texts : List String) :
    record.amendAll texts = assign ((record.applied texts).flatMap Item.ofBlock) record := by
  induction texts generalizing record with
  | nil => exact record.assign_nil.symm
  | cons text texts ih =>
    rw [amendAll, applied]
    obtain ⟨hreadable, hamend⟩ | ⟨-, e, hamend⟩ := amend_cases hkeys hfields text
    · -- The other blocks start from what this one has set, and their items come behind its own.
      have hfields' := (map_fst_assign (Item.ofBlock text) record).trans hfields
      have haccepts : ∀ item ∈ ((assign (Item.ofBlock text) record).applied texts).flatMap
          Item.ofBlock, (schema fields).Accepts item := by
        intro item hitem
        obtain ⟨text', htext', hitem⟩ := List.mem_flatMap.1 hitem
        exact isReadable_of_mem_applied hkeys hfields' text' htext' item hitem
      simp only [hamend]
      rw [ih hfields', List.flatMap_cons, assign_append hkeys hfields hreadable haccepts]
    · simp only [hamend]
      exact ih hfields

theorem map_fst_amendAll (texts : List String) :
    (record.amendAll texts).map Prod.fst = fields := by
  rw [amendAll_eq_assign hkeys hfields, map_fst_assign, hfields]

end Runs

/-- Values are shown in the order of the properties. -/
theorem map_fst_values_sublist (record : DisplayRecord) :
    (record.values.map Prod.fst).Sublist ((record.map Prod.fst).map DisplayField.key) := by
  induction record with
  | nil => exact .slnil
  | cons slot record ih =>
    unfold values at ih ⊢
    rw [List.filterMap_cons]
    cases slot.2.or slot.1.defaultValue with
    | none => exact ih.cons _
    | some value => exact ih.cons_cons _

theorem values_assign_fresh (items : List Item) :
    (assign items (fresh fields)).values =
      fields.filterMap fun field => (field.valueAfter items).map (field.key, ·) := by
  simp [values, assign, fresh, DisplayField.valueAfter, List.filterMap_map, Function.comp_def]

theorem IsReadable.exists_read {field : DisplayField} {text : String} {item : Item}
    (h : IsReadable fields text) (hfield : field ∈ fields)
    (hitem : item ∈ Item.ofBlock text) (hkey : item.key = field.key) :
    ∃ value, field.kind.read field.key item.value = .ok value := by
  have hmem : Schema.Key.of field.key field.kind.read (put field.key) ∈ schema fields :=
    List.mem_map_of_mem hfield
  obtain ⟨update, hupdate⟩ := h item hitem _ hmem hkey.symm
  obtain ⟨value, hvalue, -⟩ := map_eq_ok_iff.1 hupdate
  exact ⟨value, hvalue⟩

end DisplayRecord

namespace DisplayField

open DisplayRecord (IsReadable)

variable {fields : List DisplayField} {field : DisplayField} {texts : List String} {item : Item}
  {value : DisplayValue}

theorem shows_iff_of_last?_eq_some
    (h : Item.last? field.key (texts.flatMap Item.ofBlock) = some item) :
    field.Shows texts value ↔ field.kind.read field.key item.value = .ok value := by
  constructor
  · rintro (⟨htexts, hlast, hunset, hread⟩ | ⟨hunset, -⟩)
    · have hlast' := Item.last?_flatMap_eq_some_iff.2
        ⟨_, _, _, htexts, hlast, fun later hlater => not_isSetIn_iff.1 (hunset later hlater)⟩
      cases h.symm.trans hlast'
      exact hread
    · obtain ⟨text, htext, hset⟩ := Item.exists_of_last?_flatMap h
      exact absurd ⟨item, hset⟩ (hunset text htext)
  · intro hread
    obtain ⟨before, text, after, htexts, hlast, hunset⟩ := Item.last?_flatMap_eq_some_iff.1 h
    exact .ofBlock htexts hlast (fun later hlater => not_isSetIn_iff.2 (hunset later hlater)) hread

theorem not_isSetIn_of_last?_eq_none
    (h : Item.last? field.key (texts.flatMap Item.ofBlock) = none) :
    ∀ text ∈ texts, ¬ field.IsSetIn text := by
  rintro text htext ⟨item, hitem, hkey⟩
  exact Item.last?_eq_none_iff.1 h item (List.mem_flatMap.2 ⟨text, htext, hitem⟩) hkey

theorem shows_iff_of_last?_eq_none
    (h : Item.last? field.key (texts.flatMap Item.ofBlock) = none) :
    field.Shows texts value ↔ field.defaultValue = some value := by
  have hunset := not_isSetIn_of_last?_eq_none h
  constructor
  · rintro (⟨rfl, hlast, -⟩ | ⟨-, hdefault⟩)
    · obtain ⟨hitem, hkey⟩ := Item.mem_of_last?_eq_some hlast
      exact absurd ⟨_, hitem, hkey⟩ (hunset _ (by simp))
    · exact hdefault
  · exact .ofDefault hunset

/-- If the blocks can be read, the value after their items is the one that they make the property
show. -/
theorem valueAfter_eq_some_iff (hfield : field ∈ fields)
    (htexts : ∀ text ∈ texts, IsReadable fields text) :
    field.valueAfter (texts.flatMap Item.ofBlock) = some value ↔ field.Shows texts value := by
  unfold valueAfter Item.lastValue?
  cases h : Item.last? field.key (texts.flatMap Item.ofBlock) with
  | none =>
    rw [shows_iff_of_last?_eq_none h]
    rfl
  | some item =>
    obtain ⟨text, htext, hitem, hkey⟩ := Item.exists_of_last?_flatMap h
    obtain ⟨value', hread⟩ := (htexts text htext).exists_read hfield hitem hkey
    rw [shows_iff_of_last?_eq_some h, hread]
    simp [hread, Except.toOption]

/-- There is a value if a block is about the property, or if it has a default. -/
theorem exists_shows_iff (hfield : field ∈ fields)
    (htexts : ∀ text ∈ texts, IsReadable fields text)
    (hdefault : field.defaultValue.isSome = field.default?.isSome) :
    (∃ value, field.Shows texts value) ↔
      (∃ text ∈ texts, field.IsSetIn text) ∨ field.default?.isSome = true := by
  cases h : Item.last? field.key (texts.flatMap Item.ofBlock) with
  | none =>
    have hunset := not_isSetIn_of_last?_eq_none h
    simp only [shows_iff_of_last?_eq_none h, ← Option.isSome_iff_exists, hdefault]
    exact ⟨.inr, fun h => h.resolve_left fun ⟨text, htext, hset⟩ => hunset text htext hset⟩
  | some item =>
    obtain ⟨text, htext, hitem, hkey⟩ := Item.exists_of_last?_flatMap h
    obtain ⟨value, hread⟩ := (htexts text htext).exists_read hfield hitem hkey
    exact ⟨fun _ => .inl ⟨text, htext, item, hitem, hkey⟩,
      fun _ => ⟨value, (shows_iff_of_last?_eq_some h).2 hread⟩⟩

end DisplayField

/-- What is shown of the items of blocks that can be read. -/
theorem DisplayRecord.mem_values_iff {fields : List DisplayField} {texts : List String}
    (htexts : ∀ text ∈ texts, IsReadable fields text) {key : String} {value : DisplayValue} :
    (key, value) ∈ (assign (texts.flatMap Item.ofBlock) (fresh fields)).values ↔
      ∃ field ∈ fields, field.key = key ∧ field.Shows texts value := by
  have hshows (field : DisplayField) (hfield : field ∈ fields) :
      (field.valueAfter (texts.flatMap Item.ofBlock)).map (field.key, ·) = some (key, value) ↔
        field.key = key ∧ field.Shows texts value := by
    rw [← DisplayField.valueAfter_eq_some_iff hfield htexts]
    simp [and_comm]
  rw [values_assign_fresh, List.mem_filterMap]
  exact exists_congr fun field => and_congr_right (hshows field)

namespace ComponentType

open DisplayRecord (IsReadable)

variable {type : ComponentType}

namespace IsSound

theorem isReadable_of_mem_applied (h : type.IsSound) (texts : List String) :
    ∀ text ∈ type.fresh.applied texts, IsReadable type.fields text :=
  DisplayRecord.isReadable_of_mem_applied h.nodup type.map_fst_fresh

/-- What is shown is a property of the type with the value that the applied blocks tell. -/
theorem mem_values_amendAll_iff (h : type.IsSound) (texts : List String) (key : String)
    (value : DisplayValue) :
    (key, value) ∈ (type.fresh.amendAll texts).values ↔ ∃ field ∈ type.fields, field.key = key ∧
      field.Shows (type.fresh.applied texts) value := by
  rw [DisplayRecord.amendAll_eq_assign h.nodup type.map_fst_fresh]
  exact DisplayRecord.mem_values_iff (h.isReadable_of_mem_applied texts)

/-- A property is shown if one of the applied blocks is about it or if it has a default. -/
theorem mem_map_fst_values_iff (h : type.IsSound) (texts : List String) (key : String) :
    key ∈ (type.fresh.amendAll texts).values.map Prod.fst ↔ ∃ field ∈ type.fields, field.key = key ∧
      ((∃ text ∈ type.fresh.applied texts, field.IsSetIn text) ∨
        field.default?.isSome = true) := by
  have hshown (field : DisplayField) (hfield : field ∈ type.fields) :=
    DisplayField.exists_shows_iff hfield (h.isReadable_of_mem_applied texts)
      (h.isSome_defaultValue field hfield)
  calc key ∈ (type.fresh.amendAll texts).values.map Prod.fst
      ↔ ∃ value, (key, value) ∈ (type.fresh.amendAll texts).values := by simp
    _ ↔ ∃ field ∈ type.fields, field.key = key ∧
          ∃ value, field.Shows (type.fresh.applied texts) value := by
      simp only [h.mem_values_amendAll_iff]
      constructor
      · rintro ⟨value, field, hfield, hkey, hvalue⟩
        exact ⟨field, hfield, hkey, value, hvalue⟩
      · rintro ⟨field, hfield, hkey, value, hvalue⟩
        exact ⟨value, field, hfield, hkey, hvalue⟩
    _ ↔ _ := exists_congr fun field => and_congr_right fun hfield =>
      and_congr_right fun _ => hshown field hfield

/-- The properties are shown in the order of the type. -/
theorem map_fst_values_sublist (h : type.IsSound) (texts : List String) :
    ((type.fresh.amendAll texts).values.map Prod.fst).Sublist
      (type.fields.map DisplayField.key) := by
  have hsublist := (type.fresh.amendAll texts).map_fst_values_sublist
  rwa [DisplayRecord.map_fst_amendAll h.nodup type.map_fst_fresh] at hsublist

end IsSound

/-- What a component of a built-in type shows after any blocks, some of which may be refused. It
shows properties of its type, in their order and none of them twice. A property is shown if it has a
default or one of the applied blocks is about it, and then with the value of the last such block.
The refused blocks might as well not be there, and which blocks these are has nothing to do with the
others. -/
theorem values_amendAll (htype : type ∈ builtIn) (texts : List String) :
    let record := type.fresh.amendAll texts
    let applied := type.fresh.applied texts
    (record.values.map Prod.fst).Sublist (type.fields.map DisplayField.key) ∧
    (record.values.map Prod.fst).Nodup ∧
    (∀ key, key ∈ record.values.map Prod.fst ↔ ∃ field ∈ type.fields, field.key = key ∧
      ((∃ text ∈ applied, field.IsSetIn text) ∨ field.default?.isSome = true)) ∧
    (∀ key value, (key, value) ∈ record.values ↔
      ∃ field ∈ type.fields, field.key = key ∧ field.Shows applied value) ∧
    record = type.fresh.amendAll applied ∧
    applied = texts.filter (IsReadable type.fields) := by
  have h := isSound_of_mem_builtIn type htype
  have hsublist := h.map_fst_values_sublist texts
  exact ⟨hsublist, hsublist.nodup h.nodup, h.mem_map_fst_values_iff texts,
    h.mem_values_amendAll_iff texts, (type.fresh.amendAll_applied texts).symm,
    DisplayRecord.applied_eq_filter h.nodup type.map_fst_fresh texts⟩

/-- The title is the one of the first block, since the second one is refused for its port. The port
is the last of the last block, and the icon is the default. -/
theorem values_amendAll_server :
    let record := server.fresh.amendAll
      ["title: a, port: 1", "title: b, port: never", "port: 2, port: 3"]
    server ∈ builtIn ∧ record.values.map Prod.fst = ["title", "icon", "port", "bg", "fg"] ∧
      ("title", .text "a") ∈ record.values ∧ ("port", .integer 3) ∈ record.values ∧
      ("icon", .text "default") ∈ record.values := by
  have hserver : server ∈ builtIn := by simp [builtIn]
  obtain ⟨-, -, -, hvalues, -, happlied⟩ := values_amendAll hserver
    ["title: a, port: 1", "title: b, port: never", "port: 2, port: 3"]
  have htexts : server.fresh.applied
      ["title: a, port: 1", "title: b, port: never", "port: 2, port: 3"] =
        ["title: a, port: 1", "port: 2, port: 3"] := happlied.trans (by decide +kernel)
  rw [htexts] at hvalues
  refine ⟨hserver, by decide +kernel, (hvalues _ _).2 ⟨plainText "title", ?_, rfl, ?_⟩,
    (hvalues _ _).2 ⟨integer "port" "80", ?_, rfl, ?_⟩,
    (hvalues _ _).2 ⟨text "icon" "default", ?_, rfl, ?_⟩⟩
  · decide
  · have hitem : Item.last? "title" (Item.ofBlock "title: a, port: 1") = some ⟨"title", "a"⟩ := by
      decide +kernel
    exact .ofBlock (List.nil_append _).symm hitem (by decide +kernel) rfl
  · decide
  · have hitem : Item.last? "port" (Item.ofBlock "port: 2, port: 3") = some ⟨"port", "3"⟩ := by
      decide +kernel
    have hread : readInteger "port" "3" = .ok 3 := by decide +kernel
    refine .ofBlock (List.singleton_append ..).symm hitem ?_ (map_eq_ok_iff.2 ⟨3, hread, rfl⟩)
    exact fun _ hlater => absurd hlater List.not_mem_nil
  · decide
  · exact .ofDefault (by decide +kernel) rfl

end ComponentType

end BoxArrow
