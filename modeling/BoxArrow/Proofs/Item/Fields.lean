import BoxArrow.Item.Schema

/-!
# Fields of a record

A field of a record is written by one key of its schema. After a block whose values can all be
read, the last item with that key tells the field, and the other items do not matter.

## Main definitions

* `Schema.Writes` — a key writes a field of the record, and no other key does

## Main results

* `Schema.Writes.rel_read` — the field that a block leads to
-/

namespace BoxArrow.Schema

universe u

variable {α : Type u} {β γ : Type}

/-- If the values of some items can all be read, the first one is ignored or updates the record. -/
theorem updateItems_cons_cases {schema : Schema α} {item : Item} {items : List Item}
    {record result : α} (h : schema.updateItems (item :: items) record = (result, none)) :
    schema.find? (·.name = item.key) = none ∧ schema.updateItems items record = (result, none) ∨
      ∃ key ∈ schema, key.name = item.key ∧ ∃ update, key.read item.value = .ok update ∧
        schema.updateItems items (update record) = (result, none) := by
  rw [updateItems] at h
  split at h
  · exact .inl ⟨‹_›, h⟩
  · rename_i key hkey
    split at h
    · have hname : key.name = item.key := by simpa using List.find?_some hkey
      exact .inr ⟨key, List.mem_of_find?_eq_some hkey, hname, _, ‹_›, h⟩
    · cases h

/-- A key writes a field, with the values that `parse` reads, and no other key writes it. -/
structure Writes (schema : Schema α) (name : String) (parse : String → Except ValueError β)
    (field : α → Option β) : Prop where
  known : ∃ key ∈ schema, key.name = name
  /-- An update sets the field if it is one of the key, and leaves it as it is otherwise. -/
  update : ∀ key ∈ schema, ∀ value update, key.read value = .ok update →
    (key.name = name ∧ ∃ b, parse value = .ok b ∧ ∀ record, field (update record) = some b) ∨
      (key.name ≠ name ∧ ∀ record, field (update record) = field record)

/-- What is given by the items with a key, and by no others, corresponds to what is read from
them. -/
structure Gives (give : Item → Option γ) (name : String) (parse : String → Except ValueError β)
    (R : γ → β → Prop) (items : List Item) : Prop where
  own : ∀ item ∈ items, item.key = name → ∀ b, parse item.value = .ok b →
    ∃ c, give item = some c ∧ R c b
  other : ∀ item ∈ items, item.key ≠ name → give item = none

variable {schema : Schema α} {name : String} {parse : String → Except ValueError β}
  {field : α → Option β} {give : Item → Option γ} {R : γ → β → Prop}

theorem Gives.tail {item : Item} {items : List Item} (h : Gives give name parse R (item :: items)) :
    Gives give name parse R items :=
  ⟨fun item hitem => h.own item (List.mem_cons_of_mem _ hitem),
    fun item hitem => h.other item (List.mem_cons_of_mem _ hitem)⟩

/-- The field after some items, if it was told by what was given before them. -/
theorem Writes.rel_updateItems (h : schema.Writes name parse field) {items : List Item}
    (hgives : Gives give name parse R items) {record result : α}
    (hupdate : schema.updateItems items record = (result, none)) (earlier : List γ)
    (hrecord : Option.Rel R earlier.getLast? (field record)) :
    Option.Rel R (earlier ++ items.filterMap give).getLast? (field result) := by
  -- What the earlier items gave is kept as a list, whose last value the field has.
  induction items generalizing record earlier with
  | nil =>
    cases hupdate
    rwa [List.filterMap_nil, List.append_nil]
  | cons item items ih =>
    obtain ⟨hnone, hupdate⟩ | ⟨key, hkey, hitem, update, hread, hupdate⟩ :=
      updateItems_cons_cases hupdate
    · have hname : item.key ≠ name := by
        obtain ⟨key, hkey, rfl⟩ := h.known
        simpa [eq_comm] using List.find?_eq_none.1 hnone key hkey
      rw [List.filterMap_cons_none (hgives.other item List.mem_cons_self hname)]
      exact ih hgives.tail hupdate earlier hrecord
    · rcases h.update key hkey _ _ hread with ⟨hname, b, hb, hset⟩ | ⟨hname, hkept⟩
      · obtain ⟨c, hc, hR⟩ := hgives.own item List.mem_cons_self (hitem ▸ hname) b hb
        have hlast : Option.Rel R (earlier ++ [c]).getLast? (field (update record)) := by
          rw [hset, List.getLast?_concat]
          exact .some hR
        rw [List.filterMap_cons_some hc, List.append_cons]
        exact ih hgives.tail hupdate _ hlast
      · rw [List.filterMap_cons_none (hgives.other item List.mem_cons_self (hitem ▸ hname))]
        exact ih hgives.tail hupdate earlier (hkept record ▸ hrecord)

/-- The field that a block leads to is told by the last item with its key. -/
theorem Writes.rel_read (h : schema.Writes name parse field) {text : String} {record result : α}
    (hread : schema.read text record = .ok result) (hrecord : field record = none)
    (hgives : Gives give name parse R (Item.ofBlock text)) :
    Option.Rel R ((Item.ofBlock text).filterMap give).getLast? (field result) :=
  h.rel_updateItems hgives (read_eq_ok_iff.1 hread) [] (hrecord ▸ .none)

end BoxArrow.Schema
