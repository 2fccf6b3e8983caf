import BoxArrow.Proofs.Item.Meaning
import BoxArrow.Proofs.Layout.Literals

/-!
# The blocks of a component

Up to two blocks are offered to a component, the one of its identifier and the one of its state tag.
A block with a value that cannot be read is skipped as a whole. The others are applied in order:
each sets the size before the position, the last position on an axis decides between a number and a
reference, the last size is the one that the figure has, and a display property has the last value
that is given for it. The block of the tag has no say in the position and size of a container, so
what it says about them need not be readable.

## Main definitions

* `Offer`, `Declaration.offers` — a block that is offered to a component
* `Offer.IsReadable`, `Offer.spec` — whether a block is applied, and the box it asks for
* `Figure.StandsAt` — a figure is where the last of some positions put it
* `Figure.HasExtent` — a figure has the last of some extents
* `Figure.IsMadeBy` — what the offers make of the figure of a type

## Main results

* `Figure.ofDeclaration_offers` — what the blocks of a declaration make of its figure
-/

namespace BoxArrow

/-- A block that is offered to a component. -/
structure Offer where
  block : StateDeclaration
  /-- Whether the block has a say in position and size. -/
  placed : Bool

namespace Offer

/-- The items of the block. -/
def items (offer : Offer) : List Item := Item.ofBlock offer.block.content

/-- All values of the block that a component with the given display properties knows can be read. -/
def IsReadable (fields : List DisplayField) (offer : Offer) : Prop :=
  (offer.placed = true → ∀ item ∈ offer.items, BoxSpec.schema.Accepts item) ∧
    ∀ item ∈ offer.items, (DisplayRecord.schema fields).Accepts item

instance (fields : List DisplayField) (offer : Offer) : Decidable (offer.IsReadable fields) :=
  inferInstanceAs (Decidable ((_ → _) ∧ _))

/-- The position and size that the block asks for, if it has a say in them. -/
def spec (offer : Offer) : BoxSpec :=
  if offer.placed then BoxSpec.assign offer.items .empty else .empty

/-- The blocks that are applied. -/
def applied (fields : List DisplayField) (offers : List Offer) : List Offer :=
  offers.filter fun offer => offer.IsReadable fields

/-- The blocks that are skipped. -/
def refused (fields : List DisplayField) (offers : List Offer) : List Offer :=
  offers.filter fun offer => ¬ offer.IsReadable fields

/-- The positions on an axis that some blocks ask for, each with the span of its block. -/
def positions (axis : Axis) (offers : List Offer) : List (Position × Span) :=
  offers.filterMap fun offer => (offer.spec.position axis).map (·, offer.block.span)

/-- Those of the positions that are numbers. -/
def numbers (axis : Axis) (offers : List Offer) : List Float32 :=
  offers.filterMap fun offer => (offer.spec.position axis).bind Position.number?

/-- The extents along an axis that some blocks ask for. -/
def extents (axis : Axis) (offers : List Offer) : List Float32 :=
  offers.filterMap fun offer => offer.spec.extent axis

variable {fields : List DisplayField} {offers : List Offer}

theorem applied_concat (fields : List DisplayField) (offers : List Offer) (offer : Offer) :
    applied fields (offers ++ [offer]) =
      applied fields offers ++ if offer.IsReadable fields then [offer] else [] := by
  by_cases h : offer.IsReadable fields <;> simp [applied, h]

theorem refused_concat (fields : List DisplayField) (offers : List Offer) (offer : Offer) :
    refused fields (offers ++ [offer]) =
      refused fields offers ++ if offer.IsReadable fields then [] else [offer] := by
  by_cases h : offer.IsReadable fields <;> simp [refused, h]

theorem filterMap_number?_positions (axis : Axis) (offers : List Offer) :
    (positions axis offers).filterMap (fun p => p.1.number?) = numbers axis offers := by
  unfold positions numbers
  rw [List.filterMap_filterMap]
  refine List.filterMap_congr fun offer _ => ?_
  rw [Option.bind_map]
  rfl

theorem numbers_concat (axis : Axis) (offers : List Offer) (offer : Offer) :
    numbers axis (offers ++ [offer]) =
      numbers axis offers ++ ((offer.spec.position axis).bind Position.number?).toList := by
  unfold numbers
  cases hnumber : (offer.spec.position axis).bind Position.number? <;> simp [hnumber]

theorem extents_concat (axis : Axis) (offers : List Offer) (offer : Offer) :
    extents axis (offers ++ [offer]) =
      extents axis offers ++ (offer.spec.extent axis).toList := by
  unfold extents
  cases hextent : offer.spec.extent axis <;> simp [hextent]

theorem accepts_of_mem_applied {item : Item} (h : item ∈ (applied fields offers).flatMap items) :
    (DisplayRecord.schema fields).Accepts item := by
  obtain ⟨offer, hoffer, hitem⟩ := List.mem_flatMap.1 h
  have hreadable : offer.IsReadable fields := of_decide_eq_true (List.mem_filter.1 hoffer).2
  exact hreadable.2 item hitem

end Offer

/-- The blocks that are offered to a component: the one of its identifier, and then the one of its
state tag if that is another name. -/
def Declaration.offers (d : Declaration) : List Offer :=
  (d.states.get? d.name).toList.map (⟨·, true⟩) ++
    if d.stateTag = some d.name then []
    else (d.stateTag.bind d.states.get?).toList.map (⟨·, !d.isContainer⟩)

namespace Offer

variable {axis : Axis} {offer : Offer} {position : Position} {number : Float32}

theorem position_spec (axis : Axis) (offer : Offer) :
    offer.spec.position axis =
      if offer.placed then Item.lastValue? Position.read axis.name offer.items else none := by
  unfold spec
  cases offer.placed <;> cases axis <;>
    simp [BoxSpec.position, BoxSpec.assign, BoxSpec.empty, Axis.name]

theorem extent_spec (axis : Axis) (offer : Offer) :
    offer.spec.extent axis =
      if offer.placed then Item.lastValue? Position.readSize axis.extentKey offer.items
      else none := by
  unfold spec
  cases offer.placed <;> cases axis <;>
    simp [BoxSpec.extent, BoxSpec.assign, BoxSpec.empty, Axis.extentKey]

/-- A number that a block gives for a position is an integer. -/
theorem exists_rel_number (axis : Axis) (offer : Offer) :
    ∃ y?, Option.Rel IsCanvasNumber y? ((offer.spec.position axis).bind Position.number?) := by
  cases hnumber : (offer.spec.position axis).bind Position.number? with
  | none => exact ⟨none, .none⟩
  | some number =>
    obtain ⟨position, hposition, hnumber⟩ := Option.bind_eq_some_iff.1 hnumber
    rw [position_spec, Option.ite_none_right_eq_some] at hposition
    obtain ⟨value, hread⟩ := Item.exists_of_lastValue? hposition.2
    obtain ⟨y, hcanvas⟩ := Position.exists_isCanvasNumber hread hnumber
    exact ⟨some y, .some hcanvas⟩

/-- The extent that a block gives is an integer. -/
theorem exists_rel_extent (axis : Axis) (offer : Offer) :
    ∃ m?, Option.Rel IsCanvasExtent m? (offer.spec.extent axis) := by
  cases hextent : offer.spec.extent axis with
  | none => exact ⟨none, .none⟩
  | some number =>
    rw [extent_spec, Option.ite_none_right_eq_some] at hextent
    obtain ⟨value, hread⟩ := Item.exists_of_lastValue? hextent.2
    obtain ⟨m, -, hcanvas⟩ := Position.readSize_eq_ok hread
    exact ⟨some m, .some hcanvas⟩

end Offer

/-- Where a box starts after some blocks is told by the last number. -/
theorem Box.start_foldl_fit (offers : List Offer) (axis : Axis) (box : Box) :
    (offers.foldl (fun box offer => box.fit offer.spec) box).start axis =
      ((Offer.numbers axis offers).getLast?).getD (box.start axis) := by
  induction offers using List.reverseRecOn with
  | nil => rfl
  | append_singleton offers offer ih =>
    rw [List.foldl_append, List.foldl_cons, List.foldl_nil, start_fit, ih, Offer.numbers_concat,
      List.getLast?_append]
    cases (offer.spec.position axis).bind Position.number? <;> rfl

/-- A box after some blocks stands at zero or at one of the numbers, and spans the last extent that
is given, unless that is rounded at one of the numbers. -/
theorem Box.exists_spans_foldl_fit (offers : List Offer) {axis : Axis} {box : Box} {default : Int}
    (h : box.Spans axis 0 default) :
    ∃ x m n, (offers.foldl (fun box offer => box.fit offer.spec) box).Spans axis x m ∧
      (x = 0 ∨ ∃ number ∈ Offer.numbers axis offers, IsCanvasNumber x number) ∧
      IsCanvasExtent n ((Offer.extents axis offers).getLast?.getD (.ofInt default)) ∧
      (FitsAt n (Offer.numbers axis offers) → m = n) := by
  induction offers using List.reverseRecOn with
  | nil => exact ⟨0, default, default, h, .inl rfl, ⟨h.isExtent, rfl⟩, fun _ => rfl⟩
  | append_singleton offers offer ih =>
    obtain ⟨x, m, n, hspans, hx, hn, hkept⟩ := ih
    obtain ⟨y?, hnumber⟩ := offer.exists_rel_number axis
    obtain ⟨m?, hextent⟩ := offer.exists_rel_extent axis
    -- The last extent that is given is that of this block, or else the one from before.
    have hlast : IsCanvasExtent (m?.getD n)
        ((Offer.extents axis (offers ++ [offer])).getLast?.getD (.ofInt default)) := by
      rw [Offer.extents_concat, List.getLast?_append]
      generalize offer.spec.extent axis = extent at hextent
      cases hextent with
      | none => exact hn
      | some hextent => exact hextent
    rw [List.foldl_append]
    refine ⟨_, _, m?.getD n, hspans.fit hnumber hextent, ?_, hlast, fun hfits => ?_⟩
    · rw [Offer.numbers_concat]
      generalize (offer.spec.position axis).bind Position.number? = number at hnumber
      cases hnumber with
      | none => simpa using hx
      | some hcanvas => exact .inr ⟨_, List.mem_append_right _ List.mem_cons_self, hcanvas⟩
    · -- The extent is set where the box stood before the block.
      have hbefore : FitsAt (m?.getD n) (Offer.numbers axis offers) := by
        intro number hmem
        refine hfits number ?_
        rw [Offer.numbers_concat]
        exact List.mem_append_left _ hmem
      have hm : m?.getD m = m?.getD n := by
        cases m? with
        | none => exact hkept hbefore
        | some m => rfl
      rw [hm]
      exact hbefore.keptExtent_eq hlast.1 hx

namespace Figure

/-- The last of some positions decides where a figure is. A number is where the figure starts, and
nothing is left to be followed. A reference is left to be followed, and until then the figure starts
at the last number before it, or at zero. -/
def StandsAt (figure : Figure) (axis : Axis) (positions : List (Position × Span)) : Prop :=
  match positions.getLast? with
  | none => figure.box.start axis = 0 ∧ figure.reference axis = none
  | some (.fixed value, _) => figure.box.start axis = value ∧ figure.reference axis = none
  | some (.aligned text, block) =>
    figure.box.start axis = ((positions.filterMap fun p => p.1.number?).getLast?).getD 0 ∧
      figure.reference axis = some ⟨text, block⟩

/-- The last of some extents is the extent of a figure, or else the default one, unless it is
rounded at one of some numbers where the figure is put. -/
def HasExtent (figure : Figure) (axis : Axis) (default : Float32) (extents numbers : List Float32) :
    Prop :=
  ∃ n, IsCanvasExtent n (extents.getLast?.getD default) ∧
    (FitsAt n numbers → figure.box.extent axis = .ofInt n)

/-- What some offers make of the figure of a type, and the warnings about them. -/
structure IsMadeBy (figure : Figure) (warnings : List Warning) (type : ComponentType)
    (offers : List Offer) : Prop where
  /-- One warning for each offer that cannot be read, at its block. -/
  warnings : warnings.map (fun w => (w.finding.code, w.finding.labels.map Label.span)) =
    (Offer.refused type.fields offers).map fun offer => (some .invalidBlock, [offer.block.span])
  /-- The box is fitted to the offers that can be read, one after the other. -/
  box : figure.box = (Offer.applied type.fields offers).foldl
    (fun box offer => box.fit offer.spec) (.ofCorner .origin type.size)
  /-- The last position on an axis tells whether a reference is left to be followed. -/
  reference : ∀ axis, figure.reference axis =
    (Offer.positions axis (Offer.applied type.fields offers)).getLast?.bind fun p =>
      p.1.reference? p.2
  /-- The display properties are those that the items of the same offers set. -/
  record : figure.record =
    DisplayRecord.assign ((Offer.applied type.fields offers).flatMap Offer.items) type.fresh

variable {figure : Figure} {warnings : List Warning} {type : ComponentType} {offers : List Offer}

/-- A block that has no say in position and size is not read for them. -/
theorem readSpec_cases (offer : Offer) :
    (offer.placed = true → ∀ item ∈ offer.items, BoxSpec.schema.Accepts item) ∧
        readSpec offer.placed offer.block.content = .ok offer.spec ∨
      ¬ (offer.placed = true → ∀ item ∈ offer.items, BoxSpec.schema.Accepts item) ∧
        ∃ e, readSpec offer.placed offer.block.content = .error e := by
  obtain ⟨block, placed⟩ := offer
  cases placed with
  | false => exact .inl ⟨nofun, rfl⟩
  | true =>
    obtain ⟨haccepts, hread⟩ | ⟨haccepts, e, hread⟩ :=
      BoxSpec.empty.assigns.read_cases block.content
    · exact .inl ⟨fun _ => haccepts, hread⟩
    · exact .inr ⟨fun h => haccepts (h rfl), e, hread⟩

/-- A block is applied with all that it says, or is an error. -/
theorem amend_cases (figure : Figure) (offer : Offer) {fields : List DisplayField}
    (hkeys : (fields.map DisplayField.key).Nodup) (hfields : figure.record.map Prod.fst = fields) :
    offer.IsReadable fields ∧ figure.amend offer.placed offer.block =
        .ok ({ figure with record := DisplayRecord.assign offer.items figure.record }.fit offer.spec
          offer.block.span) ∨
      ¬ offer.IsReadable fields ∧ ∃ e, figure.amend offer.placed offer.block = .error e := by
  rw [amend_eq, DisplayRecord.amend, hfields]
  obtain ⟨hspec, hread⟩ | ⟨hspec, e, hread⟩ := readSpec_cases offer
  · rw [hread]
    obtain ⟨hrecord, hread⟩ | ⟨hrecord, e, hread⟩ :=
      (DisplayRecord.assigns hkeys hfields).read_cases offer.block.content
    · exact .inl ⟨⟨hspec, hrecord⟩, by rw [hread]; rfl⟩
    · exact .inr ⟨fun h => hrecord h.2, e, by rw [hread]; rfl⟩
  · exact .inr ⟨fun h => hspec h.1, e, by rw [hread]; rfl⟩

theorem isMadeBy_initial (catalog : Catalog) (parent : Option Nat) (d : Declaration) :
    (initial catalog parent d).IsMadeBy [] (catalog.typeFor d.typeName d.isContainer) [] where
  warnings := rfl
  box := rfl
  reference axis := by cases axis <;> rfl
  record := (DisplayRecord.assign_nil _).symm

theorem IsMadeBy.map_fst_record (h : figure.IsMadeBy warnings type offers) :
    figure.record.map Prod.fst = type.fields := by
  rw [h.record, DisplayRecord.map_fst_assign, type.map_fst_fresh]

/-- One more block is applied, or there is one more warning. -/
theorem IsMadeBy.tryAmend (h : figure.IsMadeBy warnings type offers)
    (hkeys : (type.fields.map DisplayField.key).Nodup) (offer : Offer) :
    (figure.tryAmend offer.placed (some offer.block)).1.IsMadeBy
      (warnings ++ (figure.tryAmend offer.placed (some offer.block)).2) type
      (offers ++ [offer]) := by
  have happlied := Offer.applied_concat type.fields offers offer
  have hrefused := Offer.refused_concat type.fields offers offer
  unfold Figure.tryAmend
  obtain ⟨hreadable, hamend⟩ | ⟨hreadable, e, hamend⟩ :=
    figure.amend_cases offer hkeys h.map_fst_record
  · rw [if_pos hreadable] at happlied hrefused
    simp only [hamend]
    refine ⟨?_, ?_, fun axis => ?_, ?_⟩
    · rw [hrefused, List.append_nil, List.append_nil, h.warnings]
    · rw [happlied, List.foldl_append, box_fit, h.box]
      rfl
    · -- The record is set first, which leaves the references as they are.
      have hkept : { figure with
          record := DisplayRecord.assign offer.items figure.record }.reference axis =
            figure.reference axis := by cases axis <;> rfl
      rw [happlied, reference_fit, hkept, h.reference, Offer.positions, Offer.positions,
        List.filterMap_append, List.getLast?_append]
      cases hposition : offer.spec.position axis <;> simp [hposition]
    · rw [happlied, record_fit, List.flatMap_append, List.flatMap_singleton, h.record,
        DisplayRecord.assign_append hkeys type.map_fst_fresh
          (fun _ => Offer.accepts_of_mem_applied) hreadable.2]
  · rw [if_neg hreadable] at happlied hrefused
    rw [List.append_nil] at happlied
    simp only [hamend]
    refine ⟨?_, happlied ▸ h.box, happlied ▸ h.reference, happlied ▸ h.record⟩
    rw [hrefused, List.map_append, List.map_append, h.warnings]
    rfl

theorem IsMadeBy.tryAmendAll (h : figure.IsMadeBy warnings type offers)
    (hkeys : (type.fields.map DisplayField.key).Nodup) (block : Option StateDeclaration)
    (placed : Bool) :
    (figure.tryAmend placed block).1.IsMadeBy (warnings ++ (figure.tryAmend placed block).2) type
      (offers ++ block.toList.map (⟨·, placed⟩)) := by
  cases block with
  | none => simpa [Figure.tryAmend] using h
  | some block => exact h.tryAmend hkeys ⟨block, placed⟩

/-- Where a figure stands is told by the positions that are applied. -/
theorem IsMadeBy.standsAt (h : figure.IsMadeBy warnings type offers) (axis : Axis) :
    figure.StandsAt axis (Offer.positions axis (Offer.applied type.fields offers)) := by
  have hzero : (Box.ofCorner .origin type.size).start axis = 0 := by cases axis <;> rfl
  have hstart := Box.start_foldl_fit (Offer.applied type.fields offers) axis
    (.ofCorner .origin type.size)
  have hreference := h.reference axis
  rw [← h.box, hzero, ← Offer.filterMap_number?_positions] at hstart
  unfold StandsAt
  generalize Offer.positions axis (Offer.applied type.fields offers) = positions
    at hstart hreference ⊢
  rcases hlast : positions.getLast? with _ | ⟨_ | _, block⟩ <;> rw [hlast] at hreference
  · rw [List.getLast?_eq_none_iff.1 hlast] at hstart
    exact ⟨hstart, hreference⟩
  · obtain ⟨front, rfl⟩ := List.getLast?_eq_some_iff.1 hlast
    rw [List.filterMap_append, List.getLast?_append] at hstart
    exact ⟨hstart, hreference⟩
  · exact ⟨hstart, hreference⟩

/-- The extent of a figure is told by the extents that are applied. -/
theorem IsMadeBy.hasExtent (h : figure.IsMadeBy warnings type offers)
    (htype : type ∈ ComponentType.builtIn) (axis : Axis) :
    figure.HasExtent axis (type.size.extent axis)
      (Offer.extents axis (Offer.applied type.fields offers))
      (Offer.numbers axis (Offer.applied type.fields offers)) := by
  obtain ⟨default, hdefault, hsize⟩ := ComponentType.exists_isCanvasExtent htype axis
  obtain ⟨x, m, n, hspans, hx, hn, hkept⟩ :=
    Box.exists_spans_foldl_fit (Offer.applied type.fields offers) (.ofCorner_origin hsize hdefault)
  rw [← h.box] at hspans
  rw [← hsize] at hn
  refine ⟨n, hn, fun hfits => ?_⟩
  rw [hspans.extent_eq, hkept hfits, hfits.keptExtent_eq hn.1 hx]

theorem IsMadeBy.values (h : figure.IsMadeBy warnings type offers) :
    figure.record.values = type.fields.filterMap fun field =>
      ((Item.lastValue? field.kind.read field.key
        ((Offer.applied type.fields offers).flatMap Offer.items)).or field.defaultValue).map
          (field.key, ·) := by
  rw [h.record]
  simp [DisplayRecord.values, DisplayRecord.assign, ComponentType.fresh, DisplayRecord.fresh,
    List.filterMap_map, Function.comp_def]

/-- What the blocks of a declaration make of its figure, before it is put into a container. -/
theorem ofDeclaration_offers (catalog : Catalog) (parent : Option Nat) (d : Declaration)
    (htype : catalog.typeFor d.typeName d.isContainer ∈ ComponentType.builtIn) :
    let type := catalog.typeFor d.typeName d.isContainer
    let (figure, warnings) := ofDeclaration catalog parent d
    figure.IsMadeBy warnings type d.offers ∧
    (∀ axis, figure.StandsAt axis (Offer.positions axis (Offer.applied type.fields d.offers))) ∧
    (∀ axis, figure.HasExtent axis (type.size.extent axis)
      (Offer.extents axis (Offer.applied type.fields d.offers))
      (Offer.numbers axis (Offer.applied type.fields d.offers))) ∧
    figure.record.values = type.fields.filterMap fun field =>
      ((Item.lastValue? field.kind.read field.key
        ((Offer.applied type.fields d.offers).flatMap Offer.items)).or field.defaultValue).map
          (field.key, ·) := by
  have hkeys := ComponentType.nodup_keys _ htype
  have hown := (isMadeBy_initial catalog parent d).tryAmendAll hkeys d.ownState true
  have htag := hown.tryAmendAll hkeys (otherState d) (!d.isContainer)
  have hoffers : [] ++ d.ownState.toList.map (⟨·, true⟩) ++
      (otherState d).toList.map (⟨·, !d.isContainer⟩) = d.offers := by
    unfold Declaration.offers otherState
    split <;> rfl
  rw [hoffers] at htag
  exact ⟨htag, htag.standsAt, htag.hasExtent htype, htag.values⟩

/-- The component of `a@s` with the blocks `@a(x: 10, w: wide)` and `@s(x: &b.l, y: 7, h: 45)`. -/
def halfRead : Declaration where
  name := "a"
  typeName := none
  stateTag := some "s"
  span := ⟨0, 3⟩
  depth := 0
  isContainer := false
  states := (OrderedMap.empty.insert "a" ⟨"a", "x: 10, w: wide", ⟨4, 22⟩⟩).insert "s"
    ⟨"s", "x: &b.l, y: 7, h: 45", ⟨23, 47⟩⟩
  children := []

/-- The first block is skipped for its width. The second one leaves its reference and sets the
position and the extent on the other axis. -/
theorem ofDeclaration_offers_halfRead :
    (ofDeclaration .builtIn none halfRead).2.map
        (fun w => (w.finding.code, w.finding.labels.map Label.span)) =
      [(some .invalidBlock, [⟨4, 22⟩])] ∧
    (ofDeclaration .builtIn none halfRead).1.reference .horizontal = some ⟨"b.l", ⟨23, 47⟩⟩ ∧
    (ofDeclaration .builtIn none halfRead).1.box.start .vertical = 7 ∧
    (ofDeclaration .builtIn none halfRead).1.box.extent .vertical = 45 := by
  have htype : Catalog.builtIn.typeFor halfRead.typeName halfRead.isContainer ∈
      ComponentType.builtIn := by
    simp [Catalog.typeFor, Catalog.fallback, ComponentType.builtIn, halfRead]
  have hmade := (ofDeclaration_offers .builtIn none halfRead htype).1
  obtain ⟨n, hn, hextent⟩ := (ofDeclaration_offers .builtIn none halfRead htype).2.2.1 .vertical
  have hextents : Offer.extents .vertical (Offer.applied
      (Catalog.builtIn.typeFor halfRead.typeName halfRead.isContainer).fields halfRead.offers) =
        [45] := by decide +kernel
  have hnumbers : Offer.numbers .vertical (Offer.applied
      (Catalog.builtIn.typeFor halfRead.typeName halfRead.isContainer).fields halfRead.offers) =
        [7] := by decide +kernel
  rw [hextents] at hn
  rw [hnumbers] at hextent
  have hcanvas : IsCanvasExtent 45 45 := ⟨by decide, rfl⟩
  obtain rfl := hn.unique hcanvas
  refine ⟨hmade.warnings.trans (by decide +kernel),
    (hmade.reference .horizontal).trans (by decide +kernel), ?_, hextent fun number hnumber => ?_⟩
  · refine (congrArg (·.start .vertical) hmade.box).trans ?_
    exact (Box.start_foldl_fit _ _ _).trans (by decide +kernel)
  · rw [List.mem_singleton.1 hnumber]
    exact ⟨7, ⟨by decide, rfl⟩, by decide⟩

end Figure

end BoxArrow
