import BoxArrow.BoxSpec
import BoxArrow.Component.Kind
import BoxArrow.Pen
import BoxArrow.Proofs.OrderedMap
import BoxArrow.Proofs.Outcome

/-!
# What a block says

The items of a block are applied one after the other, but what they lead to can be told at once.
Each field of a record has a key of its own, and holds the value of the last item with that key, or
what it held before if there is none. A value that cannot be read stops the block, and the items
before it stay applied.

## Main definitions

* `Item.last?`, `Item.lastValue?` — the last item with a key, and its value
* `Schema.Accepts`, `Schema.Refuses` — an item does not stop a block, or does
* `BoxSpec.assign`, `CanvasSpec.assign`, `Pen.assign`, `DisplayRecord.assign` — a record with the
  fields that some items set
* `Schema.IsReadAs` — what a block means for a record

## Main results

* `Schema.Assigns.updateItems_cases` — items are applied up to the first that is refused
* `Schema.isReadAs_builtIn` — what the blocks of positions, canvases, pens and components mean
-/

namespace BoxArrow

universe u

/-! ### The last item of a key -/

namespace Item

/-- The last of some items that has a given key. -/
def last? (key : String) (items : List Item) : Option Item :=
  (items.filter (·.key = key)).getLast?

/-- The value of the last of some items that has a given key, as `parse` reads it. -/
def lastValue? {β : Type} (parse : String → String → Except ValueError β) (key : String)
    (items : List Item) : Option β :=
  (last? key items).bind fun item => (parse key item.value).toOption

variable {β : Type} {parse : String → String → Except ValueError β} {key : String}

theorem last?_append (key : String) (items items' : List Item) :
    last? key (items ++ items') = (last? key items').or (last? key items) := by
  rw [last?, List.filter_append, List.getLast?_append]
  rfl

theorem last?_singleton (key : String) (item : Item) :
    last? key [item] = if item.key = key then some item else none := by
  by_cases h : item.key = key <;> simp [last?, h]

theorem last?_concat (key : String) (items : List Item) (item : Item) :
    last? key (items ++ [item]) = if item.key = key then some item else last? key items := by
  rw [last?_append, last?_singleton]
  split <;> rfl

theorem lastValue?_concat (items : List Item) (item : Item) :
    lastValue? parse key (items ++ [item]) =
      if item.key = key then (parse key item.value).toOption else lastValue? parse key items := by
  unfold lastValue?
  rw [last?_concat]
  split <;> rfl

theorem exists_of_lastValue? {items : List Item} {b : β}
    (h : lastValue? parse key items = some b) : ∃ value, parse key value = .ok b := by
  obtain ⟨item, -, hvalue⟩ := Option.bind_eq_some_iff.1 h
  refine ⟨item.value, ?_⟩
  cases hparse : parse key item.value with
  | ok b' =>
    rw [hparse] at hvalue
    exact congrArg Except.ok (Option.some.inj hvalue)
  | error e =>
    rw [hparse] at hvalue
    cases hvalue

/-- Items with different keys may be exchanged. -/
theorem last?_exchange {a b : Item} (h : a.key ≠ b.key) (key : String) (items : List Item) :
    last? key (items ++ [a, b]) = last? key (items ++ [b, a]) := by
  have hconcat (a b : Item) : items ++ [a, b] = items ++ [a] ++ [b] := by simp
  rw [hconcat a b, hconcat b a, last?_concat, last?_concat, last?_concat, last?_concat]
  by_cases ha : a.key = key
  · have hb : b.key ≠ key := fun hb => h (ha.trans hb.symm)
    simp [ha, hb]
  · simp [ha]

end Item

namespace Schema

variable {α : Type u} (schema : Schema α)

/-- The schema does not know the key of the item, or can read its value. -/
def Accepts (item : Item) : Prop :=
  ∀ key ∈ schema, key.name = item.key → ∃ update, key.read item.value = .ok update

instance (item : Item) : Decidable (schema.Accepts item) :=
  decidable_of_iff (∀ key ∈ schema, key.name = item.key → (key.read item.value).isOk = true)
    (by simp only [Accepts, isOk_iff])

/-- The schema knows the key of the item, and cannot read its value. -/
def Refuses (item : Item) (e : ValueError) : Prop :=
  ∃ key ∈ schema, key.name = item.key ∧ key.read item.value = .error e

/-- The schema does not know the key of the item. -/
def Ignores (item : Item) : Prop := ∀ key ∈ schema, key.name ≠ item.key

/-- What some items make of a record, told at once: `assign` follows the items one by one, and looks
at nothing but the last item of each key. -/
structure Assigns (record : α) (assign : List Item → α) : Prop where
  nodup : (schema.map Key.name).Nodup
  nil : assign [] = record
  concat : ∀ key ∈ schema, ∀ items value update, key.read value = .ok update →
    assign (items ++ [⟨key.name, value⟩]) = update (assign items)
  congr : ∀ items items', (∀ key ∈ schema, Item.last? key.name items = Item.last? key.name items') →
    assign items = assign items'

variable {schema} {record : α} {assign : List Item → α} {item : Item} {e : ValueError}

theorem Refuses.not_accepts (h : schema.Refuses item e) : ¬ schema.Accepts item := by
  obtain ⟨key, hkey, hname, hread⟩ := h
  intro haccepts
  obtain ⟨update, hupdate⟩ := haccepts key hkey hname
  cases hread.symm.trans hupdate

theorem Ignores.accepts (h : schema.Ignores item) : schema.Accepts item :=
  fun key hkey hname => absurd hname (h key hkey)

theorem updateItems_append (schema : Schema α) (items items' : List Item) (record : α) :
    schema.updateItems (items ++ items') record =
      match schema.updateItems items record with
      | (record, none) => schema.updateItems items' record
      | (record, some e) => (record, some e) := by
  induction items generalizing record with
  | nil => rfl
  | cons item items ih =>
    rw [List.cons_append, updateItems, updateItems]
    cases schema.find? (·.name = item.key) with
    | none => exact ih record
    | some key =>
      cases hread : key.read item.value with
      | error e => simp only [hread]
      | ok update => simpa only [hread] using ih (update record)

namespace Assigns

theorem assign_concat_of_ignores (h : schema.Assigns record assign) (hitem : schema.Ignores item)
    (items : List Item) : assign (items ++ [item]) = assign items :=
  h.congr _ _ fun key hkey => by rw [Item.last?_concat, if_neg (hitem key hkey).symm]

/-- One more item is ignored, writes its field, or is refused. -/
theorem updateItems_singleton (h : schema.Assigns record assign) (items : List Item) (item : Item) :
    schema.Accepts item ∧
        schema.updateItems [item] (assign items) = (assign (items ++ [item]), none) ∨
      ∃ e, schema.Refuses item e ∧
        schema.updateItems [item] (assign items) = (assign items, some e) := by
  obtain ⟨name, value⟩ := item
  rw [updateItems]
  cases hfind : schema.find? (·.name = name) with
  | none =>
    have hignores : schema.Ignores ⟨name, value⟩ := fun key hkey => by
      simpa using List.find?_eq_none.1 hfind key hkey
    refine .inl ⟨hignores.accepts, ?_⟩
    rw [h.assign_concat_of_ignores hignores]
    rfl
  | some key =>
    obtain ⟨hkey, rfl⟩ := (find?_eq_some_iff_of_nodup h.nodup).1 hfind
    cases hread : key.read value with
    | error e => exact .inr ⟨e, ⟨key, hkey, rfl, hread⟩, by simp only [hread]⟩
    | ok update =>
      refine .inl ⟨fun key' hkey' hname => ?_, ?_⟩
      · obtain rfl := List.inj_on_of_nodup_map h.nodup hkey' hkey hname
        exact ⟨update, hread⟩
      · rw [h.concat key hkey items value update hread]
        simp only [hread]
        rfl

/-- Items are applied up to the first that is refused. -/
theorem updateItems_cases (h : schema.Assigns record assign) (items : List Item) :
    (∀ item ∈ items, schema.Accepts item) ∧
        schema.updateItems items record = (assign items, none) ∨
      ∃ before item after e, items = before ++ item :: after ∧
        (∀ item ∈ before, schema.Accepts item) ∧ schema.Refuses item e ∧
        schema.updateItems before record = (assign before, none) ∧
        schema.updateItems items record = (assign before, some e) := by
  -- The record changes with each item, so the items are taken off at the end.
  induction items using List.reverseRecOn with
  | nil => exact .inl ⟨fun _ hitem => absurd hitem List.not_mem_nil, by rw [h.nil]; rfl⟩
  | append_singleton items item ih =>
    obtain ⟨haccepts, hupdate⟩ | ⟨before, bad, after, e, rfl, hbefore, hbad, hfront, hupdate⟩ := ih
    · obtain ⟨hitem, hnext⟩ | ⟨e, hrefuses, hnext⟩ := h.updateItems_singleton items item
      · refine .inl ⟨?_, by rw [updateItems_append, hupdate]; exact hnext⟩
        simpa [or_imp, forall_and] using ⟨haccepts, hitem⟩
      · exact .inr ⟨items, item, [], e, rfl, haccepts, hrefuses, hupdate,
          by rw [updateItems_append, hupdate]; exact hnext⟩
    · exact .inr ⟨before, bad, after ++ [item], e, by simp, hbefore, hbad, hfront,
        by rw [updateItems_append, hupdate]⟩

theorem updateItems_eq (h : schema.Assigns record assign) {items : List Item}
    (hitems : ∀ item ∈ items, schema.Accepts item) :
    schema.updateItems items record = (assign items, none) := by
  obtain ⟨-, hupdate⟩ | ⟨before, bad, after, e, rfl, -, hbad, -⟩ := h.updateItems_cases items
  · exact hupdate
  · exact absurd (hitems bad (by simp)) hbad.not_accepts

theorem snd_updateItems_eq_none_iff (h : schema.Assigns record assign) (items : List Item) :
    (schema.updateItems items record).2 = none ↔ ∀ item ∈ items, schema.Accepts item := by
  obtain ⟨haccepts, hupdate⟩ | ⟨before, bad, after, e, rfl, -, hbad, -, hupdate⟩ :=
    h.updateItems_cases items
  · exact iff_of_true (by rw [hupdate]) haccepts
  · exact iff_of_false (by simp [hupdate]) fun hitems =>
      hbad.not_accepts (hitems bad (by simp))

end Assigns

/-- What a block means for a record. It succeeds if no item is refused, and then `assign` tells the
record. Otherwise the first item that is refused tells the error, and the record is that of the
items before it. Neighbouring items with different keys may be exchanged, unless just one of them is
refused, no item before them is, and the other one writes a field. -/
structure IsReadAs (schema : Schema α) (assign : List Item → α → α) (record : α)
    (text : String) : Prop where
  success_iff : (schema.update text record).2 = none ↔
    ∀ item ∈ Item.ofBlock text, schema.Accepts item
  success : (schema.update text record).2 = none →
    (schema.update text record).1 = assign (Item.ofBlock text) record
  failure : ∀ e, (schema.update text record).2 = some e →
    ∃ before item after, Item.ofBlock text = before ++ item :: after ∧
      (∀ item ∈ before, schema.Accepts item) ∧ schema.Refuses item e ∧
      schema.updateItems before record = ((schema.update text record).1, none) ∧
      (schema.update text record).1 = assign before record
  exchange : ∀ text' before a b after, Item.ofBlock text = before ++ a :: b :: after →
    Item.ofBlock text' = before ++ b :: a :: after → a.key ≠ b.key →
      ((schema.update text record).2 = none ↔ (schema.update text' record).2 = none) ∧
      ((schema.Accepts a ↔ schema.Accepts b) ∨ schema.Ignores a ∨ schema.Ignores b ∨
          (∃ item ∈ before, ¬ schema.Accepts item) →
        (schema.update text record).1 = (schema.update text' record).1)

namespace Assigns

/-- A block that can be read leads to the record that its items tell. -/
theorem read_cases (h : schema.Assigns record assign) (text : String) :
    (∀ item ∈ Item.ofBlock text, schema.Accepts item) ∧
        schema.read text record = .ok (assign (Item.ofBlock text)) ∨
      (¬ ∀ item ∈ Item.ofBlock text, schema.Accepts item) ∧
        ∃ e, schema.read text record = .error e := by
  unfold read update
  obtain ⟨haccepts, hupdate⟩ | ⟨before, bad, after, e, htext, -, hbad, -, hupdate⟩ :=
    h.updateItems_cases (Item.ofBlock text)
  · exact .inl ⟨haccepts, by rw [hupdate]⟩
  · refine .inr ⟨fun haccepts => hbad.not_accepts (haccepts bad ?_), e, by rw [hupdate]⟩
    rw [htext]
    exact List.mem_append_right _ List.mem_cons_self

/-- Items behind others that are not refused are applied to the record of those. -/
theorem assign_append (h : schema.Assigns record assign) {items items' : List Item}
    {assign' : List Item → α} (h' : schema.Assigns (assign items) assign')
    (hitems : ∀ item ∈ items, schema.Accepts item)
    (hitems' : ∀ item ∈ items', schema.Accepts item) :
    assign (items ++ items') = assign' items' := by
  have hall := h.updateItems_eq fun item hitem =>
    (List.mem_append.1 hitem).elim (hitems item) (hitems' item)
  rw [updateItems_append, h.updateItems_eq hitems] at hall
  exact congrArg Prod.fst (hall.symm.trans (h'.updateItems_eq hitems'))

theorem updateItems_refused (h : schema.Assigns record assign) {before : List Item}
    (hbefore : ∀ item ∈ before, schema.Accepts item) {bad : Item}
    (hbad : schema.updateItems [bad] (assign before) = (assign before, some e))
    (after : List Item) :
    schema.updateItems (before ++ bad :: after) record = (assign before, some e) := by
  rw [updateItems_append, h.updateItems_eq hbefore]
  change schema.updateItems ([bad] ++ after) (assign before) = _
  rw [updateItems_append, hbad]

/-- An item that is not refused may be exchanged with one that is, if it is ignored or the block
stops before them. -/
theorem updateItems_exchange_refused (h : schema.Assigns record assign) {before : List Item}
    {a b : Item} (hbefore : ∀ item ∈ before, schema.Accepts item) (ha : schema.Accepts a)
    (hrefuses : schema.Refuses b e)
    (hb : schema.updateItems [b] (assign before) = (assign before, some e))
    (hab : (schema.Accepts a ↔ schema.Accepts b) ∨ schema.Ignores a ∨ schema.Ignores b ∨
      ∃ item ∈ before, ¬ schema.Accepts item) (after : List Item) :
    schema.updateItems (before ++ a :: b :: after) record =
      schema.updateItems (before ++ b :: a :: after) record := by
  have hignores : schema.Ignores a := by
    obtain hiff | hignores | hignores | ⟨item, hitem, hbad⟩ := hab
    · exact absurd (hiff.1 ha) hrefuses.not_accepts
    · exact hignores
    · exact absurd hignores.accepts hrefuses.not_accepts
    · exact absurd (hbefore item hitem) hbad
  have hkept := h.assign_concat_of_ignores hignores before
  have haccepts : ∀ item ∈ before ++ [a], schema.Accepts item := by
    simpa [or_imp, forall_and] using ⟨hbefore, ha⟩
  rw [h.updateItems_refused hbefore hb, List.append_cons,
    h.updateItems_refused haccepts (hkept ▸ hb), hkept]

/-- Two items with different keys that are not refused may be exchanged. -/
theorem updateItems_exchange (h : schema.Assigns record assign) {before : List Item} {a b : Item}
    (hne : a.key ≠ b.key) (hbefore : ∀ item ∈ before, schema.Accepts item)
    (ha : schema.Accepts a) (hb : schema.Accepts b) (after : List Item) :
    schema.updateItems (before ++ a :: b :: after) record =
      schema.updateItems (before ++ b :: a :: after) record := by
  have hsplit (a b : Item) : before ++ a :: b :: after = before ++ [a, b] ++ after := by simp
  rw [hsplit a b, hsplit b a, updateItems_append, updateItems_append _ (before ++ [b, a]),
    h.updateItems_eq (by simpa [or_imp, forall_and] using ⟨hbefore, ha, hb⟩),
    h.updateItems_eq (by simpa [or_imp, forall_and] using ⟨hbefore, hb, ha⟩),
    h.congr _ _ fun key _ => Item.last?_exchange hne key.name before]

theorem fst_updateItems_exchange (h : schema.Assigns record assign) {before : List Item}
    {a b : Item} (hne : a.key ≠ b.key)
    (hab : (schema.Accepts a ↔ schema.Accepts b) ∨ schema.Ignores a ∨ schema.Ignores b ∨
      ∃ item ∈ before, ¬ schema.Accepts item) (after : List Item) :
    (schema.updateItems (before ++ a :: b :: after) record).1 =
      (schema.updateItems (before ++ b :: a :: after) record).1 := by
  obtain ⟨hbefore, -⟩ | ⟨_, _, _, e, -, -, -, -, hupdate⟩ := h.updateItems_cases before
  · obtain ⟨ha, -⟩ | ⟨e, hrefuses, ha⟩ := h.updateItems_singleton before a <;>
      obtain ⟨hb, -⟩ | ⟨e', hrefuses', hb⟩ := h.updateItems_singleton before b
    · rw [h.updateItems_exchange hne hbefore ha hb]
    · rw [h.updateItems_exchange_refused hbefore ha hrefuses' hb hab]
    · have hba := hab.imp Iff.symm or_left_comm.1
      rw [h.updateItems_exchange_refused hbefore hb hrefuses ha hba]
    · -- Whichever of the two stands first, neither is applied.
      rw [h.updateItems_refused hbefore ha, h.updateItems_refused hbefore hb]
  · rw [updateItems_append, updateItems_append, hupdate]

theorem isReadAs {assign : List Item → α → α}
    (h : schema.Assigns record fun items => assign items record) (text : String) :
    schema.IsReadAs assign record text where
  success_iff := h.snd_updateItems_eq_none_iff _
  success hnone := by
    rw [update, h.updateItems_eq ((h.snd_updateItems_eq_none_iff _).1 hnone)]
  failure e he := by
    obtain ⟨-, hupdate⟩ | ⟨before, bad, after, e', htext, hbefore, hbad, hfront, hupdate⟩ :=
      h.updateItems_cases (Item.ofBlock text)
    · rw [update, hupdate] at he
      cases he
    · rw [update, hupdate] at he ⊢
      cases he
      exact ⟨before, bad, after, htext, hbefore, hbad, hfront, rfl⟩
  exchange text' before a b after htext htext' hne := by
    unfold update
    rw [htext, htext', h.snd_updateItems_eq_none_iff, h.snd_updateItems_eq_none_iff]
    refine ⟨?_, fun hab => h.fst_updateItems_exchange hne hab after⟩
    simp [or_imp, forall_and, and_left_comm]

end Assigns

end Schema

/-! ### The schemas -/

section Schemas

open Item (lastValue?)

/-- The position and size with the fields that some items set. -/
def BoxSpec.assign (items : List Item) (spec : BoxSpec) : BoxSpec where
  x := (lastValue? Position.read "x" items).or spec.x
  y := (lastValue? Position.read "y" items).or spec.y
  width := (lastValue? Position.readSize "w" items).or spec.width
  height := (lastValue? Position.readSize "h" items).or spec.height

/-- The size of the canvas with the fields that some items set. -/
def CanvasSpec.assign (items : List Item) (spec : CanvasSpec) : CanvasSpec where
  width := (lastValue? Position.readSize "w" items).or spec.width
  height := (lastValue? Position.readSize "h" items).or spec.height

/-- The pen with the fields that some items set. -/
def Pen.assign (items : List Item) (pen : Pen) : Pen where
  pattern := (lastValue? LinePattern.read "style" items).getD pen.pattern
  color := (lastValue? readColor "color" items).getD pen.color
  width := (lastValue? readWidth "width" items).getD pen.width
  startHead := (lastValue? readBool "markerStart" items).getD pen.startHead
  endHead := (lastValue? readBool "markerEnd" items).getD pen.endHead

/-- The display properties with the values that some items set. -/
def DisplayRecord.assign (items : List Item) (record : DisplayRecord) : DisplayRecord :=
  record.map fun slot =>
    (slot.1, (lastValue? slot.1.kind.read slot.1.key items).or slot.2)

theorem BoxSpec.assigns (spec : BoxSpec) :
    schema.Assigns spec fun items => assign items spec where
  nodup := by simp [schema, Schema.Key.of]
  nil := rfl
  concat key hkey items value update hread := by
    simp only [schema, List.mem_cons, List.not_mem_nil, or_false] at hkey
    rcases hkey with rfl | rfl | rfl | rfl <;> obtain ⟨b, hb, rfl⟩ := map_eq_ok_iff.1 hread <;>
      simp [assign, Schema.Key.of, Item.lastValue?_concat, hb, Except.toOption]
  congr items items' hlast := by
    simp only [schema, Schema.Key.of, List.forall_mem_cons] at hlast
    simp only [assign, lastValue?, hlast]

theorem CanvasSpec.assigns (spec : CanvasSpec) :
    schema.Assigns spec fun items => assign items spec where
  nodup := by simp [schema, Schema.Key.of]
  nil := rfl
  concat key hkey items value update hread := by
    simp only [schema, List.mem_cons, List.not_mem_nil, or_false] at hkey
    rcases hkey with rfl | rfl <;> obtain ⟨b, hb, rfl⟩ := map_eq_ok_iff.1 hread <;>
      simp [assign, Schema.Key.of, Item.lastValue?_concat, hb, Except.toOption]
  congr items items' hlast := by
    simp only [schema, Schema.Key.of, List.forall_mem_cons] at hlast
    simp only [assign, lastValue?, hlast]

theorem Pen.assigns (pen : Pen) : schema.Assigns pen fun items => assign items pen where
  nodup := by simp [schema, Schema.Key.of]
  nil := rfl
  concat key hkey items value update hread := by
    simp only [schema, List.mem_cons, List.not_mem_nil, or_false] at hkey
    rcases hkey with rfl | rfl | rfl | rfl | rfl <;>
      obtain ⟨b, hb, rfl⟩ := map_eq_ok_iff.1 hread <;>
      simp [assign, Schema.Key.of, Item.lastValue?_concat, hb, Except.toOption]
  congr items items' hlast := by
    simp only [schema, Schema.Key.of, List.forall_mem_cons] at hlast
    simp only [assign, lastValue?, hlast]

theorem DisplayRecord.assign_nil (record : DisplayRecord) : assign [] record = record := by
  have hnone (slot : DisplayField × Option DisplayValue) :
      (slot.1, (lastValue? slot.1.kind.read slot.1.key []).or slot.2) = slot := rfl
  simp [assign, hnone]

theorem ComponentType.map_fst_fresh (type : ComponentType) :
    type.fresh.map Prod.fst = type.fields := by
  simp [fresh, DisplayRecord.fresh, Function.comp_def]

theorem DisplayRecord.map_fst_assign (items : List Item) (record : DisplayRecord) :
    (assign items record).map Prod.fst = record.map Prod.fst := by
  simp [assign]

theorem DisplayRecord.assigns {fields : List DisplayField}
    (hnodup : (fields.map DisplayField.key).Nodup) {record : DisplayRecord}
    (hfields : record.map Prod.fst = fields) :
    (schema fields).Assigns record fun items => assign items record where
  nodup := by
    have hnames : (schema fields).map Schema.Key.name = fields.map DisplayField.key :=
      List.map_map
    rwa [hnames]
  nil := record.assign_nil
  concat key hkey items value update hread := by
    obtain ⟨field, hfield, rfl⟩ := List.mem_map.1 hkey
    obtain ⟨b, hb, rfl⟩ := map_eq_ok_iff.1 hread
    unfold assign put
    rw [List.map_map]
    refine List.map_congr_left fun slot hslot => ?_
    dsimp only [Function.comp_apply, Schema.Key.of]
    rw [Item.lastValue?_concat]
    -- The slots have keys of their own, so the key of a slot tells its kind.
    by_cases hkey : slot.1.key = field.key
    · have hslot : slot.1 ∈ fields := hfields ▸ List.mem_map_of_mem hslot
      obtain rfl := List.inj_on_of_nodup_map hnodup hslot hfield hkey
      simp [hb, Except.toOption]
    · rw [if_neg (Ne.symm hkey), if_neg hkey]
  congr items items' hlast := by
    refine List.map_congr_left fun slot hslot => ?_
    have hslot : slot.1 ∈ fields := hfields ▸ List.mem_map_of_mem hslot
    have hkey : Item.last? slot.1.key items = Item.last? slot.1.key items' :=
      hlast _ (List.mem_map_of_mem hslot)
    rw [lastValue?, lastValue?, hkey]

/-- Items that can be read are applied to what those before them have set. -/
theorem DisplayRecord.assign_append {fields : List DisplayField}
    (hnodup : (fields.map DisplayField.key).Nodup) {record : DisplayRecord}
    (hfields : record.map Prod.fst = fields) {items items' : List Item}
    (hitems : ∀ item ∈ items, (schema fields).Accepts item)
    (hitems' : ∀ item ∈ items', (schema fields).Accepts item) :
    assign (items ++ items') record = assign items' (assign items record) :=
  (assigns hnodup hfields).assign_append
    (assigns hnodup ((map_fst_assign items record).trans hfields)) hitems hitems'

/-- The display properties of a type have keys of their own. -/
theorem ComponentType.nodup_keys : ∀ type ∈ builtIn, (type.fields.map DisplayField.key).Nodup := by
  decide

/-- What the blocks of positions and sizes, of the canvas, of pens and of the components mean. -/
theorem Schema.isReadAs_builtIn (text : String) :
    (∀ spec, BoxSpec.schema.IsReadAs BoxSpec.assign spec text) ∧
    (∀ spec, CanvasSpec.schema.IsReadAs CanvasSpec.assign spec text) ∧
    (∀ pen, Pen.schema.IsReadAs Pen.assign pen text) ∧
    ∀ type ∈ ComponentType.builtIn, ∀ record : DisplayRecord, record.map Prod.fst = type.fields →
      (DisplayRecord.schema type.fields).IsReadAs DisplayRecord.assign record text :=
  ⟨fun spec => spec.assigns.isReadAs text, fun spec => spec.assigns.isReadAs text,
    fun pen => pen.assigns.isReadAs text, fun type htype _ hfields =>
      (DisplayRecord.assigns (ComponentType.nodup_keys type htype) hfields).isReadAs text⟩

/-- Two items of a server that may be exchanged. -/
theorem Schema.isReadAs_server :
    ((DisplayRecord.schema ComponentType.server.fields).update "port: 8080, title: db"
        ComponentType.server.fresh).1 =
      ((DisplayRecord.schema ComponentType.server.fields).update "title: db, port: 8080"
        ComponentType.server.fresh).1 := by
  have hserver : ComponentType.server ∈ ComponentType.builtIn := by simp [ComponentType.builtIn]
  have hread := (isReadAs_builtIn "port: 8080, title: db").2.2.2 .server hserver
    ComponentType.server.fresh rfl
  have htext : Item.ofBlock "port: 8080, title: db" = [⟨"port", "8080"⟩, ⟨"title", "db"⟩] := by
    decide +kernel
  exact (hread.exchange "title: db, port: 8080" [] _ _ [] htext (by decide +kernel)
    (by decide)).2 (.inl (by decide +kernel))

/-- Two items that may not be exchanged, since one of them is refused: the position is applied if it
stands before the size, and is not if it stands behind it. -/
theorem Schema.exchange_refused :
    Item.ofBlock "x: 1, w: bad" = [⟨"x", "1"⟩, ⟨"w", "bad"⟩] ∧
      Item.ofBlock "w: bad, x: 1" = [⟨"w", "bad"⟩, ⟨"x", "1"⟩] ∧
      (BoxSpec.schema.update "x: 1, w: bad" .empty).1 ≠
        (BoxSpec.schema.update "w: bad, x: 1" .empty).1 := by
  refine ⟨by decide +kernel, by decide +kernel, fun h => ?_⟩
  have hset := congrArg (fun spec => spec.x.isSome) h
  exact absurd hset (by decide +kernel)

end Schemas

end BoxArrow
