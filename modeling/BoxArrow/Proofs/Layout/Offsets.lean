import BoxArrow.Proofs.Layout.Dependency
import BoxArrow.Proofs.Layout.Forest
import BoxArrow.Proofs.Layout.Reference
import Mathlib.Data.List.Induction

/-!
# The equations of a pass

A pass over an axis gives every figure that asks for a tie and does not need itself an offset. The
offset is the one that the tie asks for when its target has reached its final place and its
containers have taken it along. These conditions are equations for the offsets of all figures, and
they have at most one solution, since no figure that has an offset needs itself.

## Main definitions

* `Forest.AsksFor` — the reference of a figure asks for a tie
* `Forest.Needs` — a figure needs its container and the figure that it refers to
* `Forest.carriedBox` — the box of a figure after its containers have taken it along
* `Forest.finalBox` — the box of a figure after its own offset too
* `Forest.IsSolution` — the offsets satisfy the equations of a pass
* `Forest.turns` — the figures that a pass moves, in their order

## Main results

* `Forest.Indexes.tie?_eq_some_iff` — the ties of a pass are those that the figures ask for
* `Forest.mem_of_turns_eq_append` — a figure takes its turn after what it needs
* `Forest.IsSolution.unique` — the equations have at most one solution
-/

namespace BoxArrow

open Relation

/-- The offset by a value along an axis. -/
def Point.along (axis : Axis) (value : Float32) : Point :=
  match axis with
  | .horizontal => ⟨value, 0⟩
  | .vertical => ⟨0, value⟩

/-- The box moved by an offset, if there is one. -/
def Box.shift (box : Box) (offset : Option Point) : Box := offset.elim box box.move

namespace Forest

/-- The reference of a figure on an axis, if it has one. -/
def referenceOf (forest : Forest) (axis : Axis) (i : Nat) : Option Reference :=
  forest[i]?.bind fun figure => figure.reference axis

/-- A figure refers to another one: its reference asks for an alignment with an identifier, which
the other one is the last to bear. A reference that asks for nothing on the axis leads nowhere. -/
def RefersTo (forest : Forest) (axis : Axis) (i j : Nat) : Prop :=
  ∃ reference target alignment, forest.referenceOf axis i = some reference ∧
    reference.Asks axis target alignment ∧ forest.IsLast target j

/-- A figure needs the one that it refers to and its container. -/
def Needs (forest : Forest) (axis : Axis) (i j : Nat) : Prop :=
  forest.RefersTo axis i j ∨ forest.parentOf i = some j

/-- A figure asks for a tie: its reference asks for the alignment with an identifier, which the
target is the last to bear. -/
def AsksFor (forest : Forest) (axis : Axis) (i : Nat) (tie : Tie) : Prop :=
  ∃ reference id, forest.referenceOf axis i = some reference ∧
    reference.Asks axis id tie.alignment ∧ forest.IsLast id tie.target

/-- The box after the offsets of a list of figures, one after the other. -/
def carry (offsets : Nat → Option Point) (path : List Nat) (box : Box) : Box :=
  path.foldl (fun box i => box.shift (offsets i)) box

/-- The box of a figure after its containers have taken it along, the outermost one first. -/
def carriedBox (forest : Forest) (offsets : Nat → Option Point) (i : Nat) : Box :=
  carry offsets (forest.containers i) (forest.boxOf i)

/-- The box of a figure after its containers have taken it along and after its own offset. -/
def finalBox (forest : Forest) (offsets : Nat → Option Point) (i : Nat) : Box :=
  (forest.carriedBox offsets i).shift (offsets i)

/-- The offset that a tie asks for, between the figure as its containers have taken it along and
its target in its final place. -/
def requestedOffset (forest : Forest) (axis : Axis) (offsets : Nat → Option Point) (i : Nat)
    (tie : Tie) : Point :=
  let target := forest.finalBox offsets tie.target
  let own := forest.carriedBox offsets i
  .along axis (tie.alignment.position (target.start axis) (target.extent axis) (own.extent axis) -
    own.start axis)

/-- The offsets of a pass over an axis. -/
structure IsSolution (forest : Forest) (axis : Axis) (offsets : Nat → Option Point) : Prop where
  /-- A figure that asks for a tie and does not need itself has the offset that the tie asks for. -/
  tied : ∀ i tie, forest.AsksFor axis i tie → ¬ TransGen (forest.Needs axis) i i →
    offsets i = some (forest.requestedOffset axis offsets i tie)
  untied : ∀ i, (∀ tie, ¬ forest.AsksFor axis i tie) → offsets i = none
  cyclic : ∀ i, TransGen (forest.Needs axis) i i → offsets i = none

/-- The figures that a pass over an axis moves, in their order. -/
def turns (forest : Forest) (axis : Axis) (index : OrderedMap Nat) : List Nat :=
  let next := forest.dependencies (forest.ties axis index)
  ((Dependency.completion next forest.length).filter fun i =>
      (tie? (forest.ties axis index) i).isSome).filter
    fun i => !Dependency.onCycle next forest.length i

/-- An index finds the last figures that bear the identifiers. -/
def Indexes (forest : Forest) (index : OrderedMap Nat) : Prop :=
  ∀ id i, index.get? id = some i ↔ forest.IsLast id i

variable {forest : Forest} {axis : Axis} {index : OrderedMap Nat} {i j k : Nat} {tie tie' : Tie}
  {offsets offsets' : Nat → Option Point}

/-! ### Indices -/

theorem indexes_lastIndex (forest : Forest) : forest.Indexes forest.lastIndex :=
  fun _ _ => get?_lastIndex_eq_some_iff_isLast

theorem Indexes.lt_length (h : forest.Indexes index) {id : String} (hi : index.get? id = some i) :
    i < forest.length :=
  ((h id i).1 hi).lt_length

theorem lastIndex_withBoxes (forest : Forest) (boxes : Nat → Box) :
    (forest.withBoxes boxes).lastIndex = forest.lastIndex := by
  unfold lastIndex
  rw [map_id_withBoxes]

theorem isLast_withBoxes (forest : Forest) (boxes : Nat → Box) (id : String) (i : Nat) :
    (forest.withBoxes boxes).IsLast id i ↔ forest.IsLast id i := by
  rw [← get?_lastIndex_eq_some_iff_isLast, lastIndex_withBoxes, get?_lastIndex_eq_some_iff_isLast]

theorem Indexes.withBoxes (h : forest.Indexes index) (boxes : Nat → Box) :
    (forest.withBoxes boxes).Indexes index :=
  fun id i => (h id i).trans (isLast_withBoxes forest boxes id i).symm

section Ties

theorem lt_length_of_referenceOf {reference : Reference}
    (h : forest.referenceOf axis i = some reference) : i < forest.length := by
  obtain ⟨figure, hi, -⟩ := Option.bind_eq_some_iff.1 h
  exact (List.getElem?_eq_some_iff.1 hi).1

theorem AsksFor.lt_length (h : forest.AsksFor axis i tie) : i < forest.length := by
  obtain ⟨reference, id, hreference, -⟩ := h
  exact lt_length_of_referenceOf hreference

theorem AsksFor.target_lt_length (h : forest.AsksFor axis i tie) :
    tie.target < forest.length := by
  obtain ⟨reference, id, -, -, hlast⟩ := h
  exact hlast.lt_length

/-- A figure asks for one tie at most. -/
theorem AsksFor.unique (h : forest.AsksFor axis i tie) (h' : forest.AsksFor axis i tie') :
    tie = tie' := by
  obtain ⟨reference, id, hreference, hasks, hlast⟩ := h
  obtain ⟨reference', id', hreference', hasks', hlast'⟩ := h'
  obtain rfl := Option.some.inj (hreference.symm.trans hreference')
  obtain ⟨rfl, halignment⟩ := Tie.asks_unique hasks hasks'
  have htarget := hlast.unique hlast'
  cases tie
  cases tie'
  congr

/-- A figure refers to the target of the tie that it asks for. -/
theorem refersTo_iff :
    forest.RefersTo axis i j ↔ ∃ tie, forest.AsksFor axis i tie ∧ tie.target = j := by
  constructor
  · rintro ⟨reference, id, alignment, hreference, hasks, hlast⟩
    exact ⟨⟨j, alignment⟩, ⟨reference, id, hreference, hasks, hlast⟩, rfl⟩
  · rintro ⟨tie, ⟨reference, id, hreference, hasks, hlast⟩, rfl⟩
    exact ⟨reference, id, tie.alignment, hreference, hasks, hlast⟩

theorem AsksFor.needs (h : forest.AsksFor axis i tie) : forest.Needs axis i tie.target :=
  .inl (refersTo_iff.2 ⟨tie, h, rfl⟩)

theorem tie?_ties_eq_some_iff :
    tie? (forest.ties axis index) i = some tie ↔
      ∃ reference, forest.referenceOf axis i = some reference ∧
        Tie.ofReference axis index reference = .ok tie := by
  unfold tie? ties referenceOf
  rw [List.getElem?_map]
  cases forest[i]? with
  | none => simp
  | some figure =>
    cases hreference : figure.reference axis with
    | none => simp [hreference]
    | some reference =>
      cases htie : Tie.ofReference axis index reference <;> simp [hreference, htie]

/-- The ties that a pass goes by are those that the figures ask for. -/
theorem Indexes.tie?_eq_some_iff (h : forest.Indexes index) :
    tie? (forest.ties axis index) i = some tie ↔ forest.AsksFor axis i tie := by
  rw [tie?_ties_eq_some_iff]
  constructor
  · rintro ⟨reference, hreference, hok⟩
    obtain ⟨id, hasks, hget⟩ := Tie.ofReference_eq_ok_iff.1 hok
    exact ⟨reference, id, hreference, hasks, (h id _).1 hget⟩
  · rintro ⟨reference, id, hreference, hasks, hlast⟩
    have hget := (h id _).2 hlast
    exact ⟨reference, hreference, Tie.ofReference_eq_ok_iff.2 ⟨id, hasks, hget⟩⟩

theorem dependsOn_dependencies_iff (h : forest.Indexes index) :
    Dependency.DependsOn (forest.dependencies (forest.ties axis index)) i j ↔
      forest.Needs axis i j := by
  unfold Dependency.DependsOn dependencies Needs
  rw [List.mem_append]
  refine or_congr ?_ Option.mem_toList
  simp only [refersTo_iff, Option.mem_toList, Option.map_eq_some_iff, h.tie?_eq_some_iff]

theorem dependsOn_dependencies (h : forest.Indexes index) :
    Dependency.DependsOn (forest.dependencies (forest.ties axis index)) = forest.Needs axis := by
  funext i j
  exact propext (dependsOn_dependencies_iff h)

theorem Needs.lt_length (h : forest.Needs axis i j) (hnested : forest.IsNested) :
    j < forest.length := by
  rcases h with ⟨reference, id, alignment, -, -, hlast⟩ | hparent
  · exact hlast.lt_length
  · exact Nat.lt_trans (hnested.parent_lt i j hparent) (lt_length_of_parentOf hparent)

theorem lt_length_of_transGen (hnested : forest.IsNested)
    (h : TransGen (forest.Needs axis) i j) : j < forest.length := by
  cases h with
  | single h => exact h.lt_length hnested
  | tail _ h => exact h.lt_length hnested

theorem transGen_of_mem_containers (hnested : forest.IsNested) (h : j ∈ forest.containers i) :
    TransGen (forest.Needs axis) i j := by
  induction i using hnested.induction_on with
  | top i hp => exact absurd (containers_of_none hp ▸ h) List.not_mem_nil
  | inner i p hp ih =>
    rcases (hnested.mem_containers_of_some hp).1 h with rfl | hj
    · exact .single (.inr hp)
    · exact .head (.inr hp) (ih hj)

/-- A figure that asks for a tie needs the target and what contains that. -/
theorem AsksFor.transGen (h : forest.AsksFor axis i tie) (hnested : forest.IsNested)
    (hj : j = tie.target ∨ j ∈ forest.containers tie.target) :
    TransGen (forest.Needs axis) i j := by
  rcases hj with rfl | hj
  · exact .single h.needs
  · exact .head h.needs (transGen_of_mem_containers hnested hj)

end Ties

section Turns

variable (hnested : forest.IsNested) (hindex : forest.Indexes index)
include hnested hindex

theorem dependencies_lt_length (i : Nat) :
    ∀ j ∈ forest.dependencies (forest.ties axis index) i, j < forest.length :=
  fun _ hj => ((dependsOn_dependencies_iff hindex).1 hj).lt_length hnested

theorem onCycle_dependencies_iff :
    Dependency.onCycle (forest.dependencies (forest.ties axis index)) forest.length i = true ↔
      TransGen (forest.Needs axis) i i := by
  rw [Dependency.onCycle_eq_true_iff (dependencies_lt_length hnested hindex),
    dependsOn_dependencies hindex]

/-- The figures that a pass moves are those that ask for a tie and do not need themselves. -/
theorem mem_turns_iff :
    i ∈ forest.turns axis index ↔
      (∃ tie, forest.AsksFor axis i tie) ∧ ¬ TransGen (forest.Needs axis) i i := by
  simp only [turns, List.mem_filter, Bool.not_eq_true', Bool.eq_false_iff, ne_eq,
    onCycle_dependencies_iff hnested hindex, Option.isSome_iff_exists, hindex.tie?_eq_some_iff,
    (Dependency.completion_perm (dependencies_lt_length hnested hindex)).mem_iff, List.mem_range]
  refine and_congr_left' ⟨And.right, fun h => ⟨?_, h⟩⟩
  obtain ⟨tie, htie⟩ := h
  exact htie.lt_length

theorem nodup_turns : (forest.turns axis index).Nodup := by
  have hlt : ∀ i, ∀ j ∈ forest.dependencies (forest.ties axis index) i, j < forest.length :=
    dependencies_lt_length hnested hindex
  have hperm := Dependency.completion_perm hlt
  exact ((hperm.nodup_iff.2 List.nodup_range).filter _).filter _

/-- A figure takes its turn after what it needs. -/
theorem mem_of_turns_eq_append {earlier later : List Nat}
    (h : forest.turns axis index = earlier ++ i :: later)
    (hij : TransGen (forest.Needs axis) i j) (hj : j ∈ forest.turns axis index) :
    j ∈ earlier := by
  have hacyclic := ((mem_turns_iff hnested hindex).1 (h ▸ List.mem_append_right _
    List.mem_cons_self : i ∈ forest.turns axis index)).2
  -- What the completion has before `i` has either taken its turn or has been skipped, and `j` is
  -- not skipped.
  unfold turns at h hj
  rw [List.filter_filter] at h hj
  obtain ⟨before, after, hcompletion, rfl, hafter⟩ := List.filter_eq_append_iff.1 h
  obtain ⟨skipped, rest, rfl, hskipped, -, -⟩ := List.filter_eq_cons_iff.1 hafter
  rw [← List.append_assoc] at hcompletion
  rw [← dependsOn_dependencies hindex] at hij hacyclic
  have hmem := Dependency.mem_of_completion_eq_append (dependencies_lt_length hnested hindex)
    hcompletion hacyclic hij
  obtain ⟨-, hturn⟩ := List.mem_filter.1 hj
  rcases List.mem_append.1 hmem with hmem | hmem
  · exact List.mem_filter.2 ⟨hmem, hturn⟩
  · exact absurd hturn (hskipped j hmem)

/-- What needs a figure takes its turn after it. -/
theorem notMem_of_turns_eq_append {earlier later : List Nat}
    (h : forest.turns axis index = earlier ++ i :: later)
    (hji : j = i ∨ TransGen (forest.Needs axis) j i) : j ∉ earlier := by
  intro hj
  have hnodup : (forest.turns axis index).Nodup := nodup_turns hnested hindex
  rw [h] at hnodup
  have hi : i ∉ earlier := fun hi =>
    (List.nodup_append.1 hnodup).2.2 i hi i List.mem_cons_self rfl
  rcases hji with rfl | hji
  · exact hi hj
  -- If `j` had its turn before `i`, then `i`, which it needs, would have had one before that.
  · obtain ⟨before, after, rfl⟩ := List.append_of_mem hj
    have hsplit : forest.turns axis index = before ++ j :: (after ++ i :: later) := by
      rw [h, List.append_assoc, List.cons_append]
    have hturn : i ∈ forest.turns axis index := by
      rw [h]
      exact List.mem_append_right _ List.mem_cons_self
    have hmem := mem_of_turns_eq_append hnested hindex hsplit hji hturn
    exact hi (List.mem_append_left _ hmem)

end Turns

section Boxes

theorem carry_append (first second : List Nat) (box : Box) :
    carry offsets (first ++ second) box = carry offsets second (carry offsets first box) :=
  List.foldl_append

theorem carry_congr {path : List Nat} (h : ∀ c ∈ path, offsets c = offsets' c) (box : Box) :
    carry offsets path box = carry offsets' path box := by
  induction path generalizing box with
  | nil => rfl
  | cons c path ih =>
    unfold carry
    rw [List.foldl_cons, List.foldl_cons, h c List.mem_cons_self]
    exact ih (fun c hc => h c (List.mem_cons_of_mem _ hc)) _

theorem carry_of_none {path : List Nat} (h : ∀ c ∈ path, offsets c = none) (box : Box) :
    carry offsets path box = box := by
  induction path with
  | nil => rfl
  | cons c path ih =>
    unfold carry
    rw [List.foldl_cons, h c List.mem_cons_self]
    exact ih fun c hc => h c (List.mem_cons_of_mem _ hc)

theorem carriedBox_congr (h : ∀ c ∈ forest.containers i, offsets c = offsets' c) :
    forest.carriedBox offsets i = forest.carriedBox offsets' i :=
  carry_congr h _

theorem finalBox_congr (h : ∀ c, c = i ∨ c ∈ forest.containers i → offsets c = offsets' c) :
    forest.finalBox offsets i = forest.finalBox offsets' i := by
  rw [finalBox, finalBox, carriedBox_congr fun c hc => h c (.inr hc), h i (.inl rfl)]

theorem finalBox_of_none (h : offsets i = none) :
    forest.finalBox offsets i = forest.carriedBox offsets i := by
  rw [finalBox, h]
  rfl

theorem finalBox_none (forest : Forest) : forest.finalBox (fun _ => none) = forest.boxOf := by
  funext i
  rw [finalBox_of_none rfl, carriedBox, carry_of_none fun _ _ => rfl]

theorem finalBox_eq_carry (forest : Forest) (offsets : Nat → Option Point) (i : Nat) :
    forest.finalBox offsets i = carry offsets (forest.containers i ++ [i]) (forest.boxOf i) := by
  rw [carry_append]
  rfl

theorem requestedOffset_congr
    (hown : ∀ c ∈ forest.containers i, offsets c = offsets' c)
    (htarget : ∀ c, c = tie.target ∨ c ∈ forest.containers tie.target → offsets c = offsets' c) :
    forest.requestedOffset axis offsets i tie = forest.requestedOffset axis offsets' i tie := by
  unfold requestedOffset
  rw [carriedBox_congr hown, finalBox_congr htarget]

/-- The containers of a figure inside another one, from that one on, are inside it. -/
theorem exists_containers_append (hnested : forest.IsNested)
    (h : i = k ∨ k ∈ forest.containers i) :
    ∃ inner, forest.containers i ++ [i] = forest.containers k ++ k :: inner ∧
      ∀ c ∈ inner, k ∈ forest.containers c := by
  induction i using hnested.induction_on with
  | top i hp =>
    rcases h with rfl | hk
    · exact ⟨[], rfl, nofun⟩
    · exact absurd (containers_of_none hp ▸ hk) List.not_mem_nil
  | inner i p hp ih =>
    rcases h with rfl | hk
    · exact ⟨[], rfl, nofun⟩
    · have hkp := (hnested.mem_containers_of_some hp).1 hk
      obtain ⟨inner, heq, hinner⟩ := ih (hkp.imp Eq.symm id)
      refine ⟨inner ++ [i], ?_, fun c hc => ?_⟩
      · rw [containers_of_some hnested hp, heq, List.append_assoc, List.cons_append]
      · rcases List.mem_append.1 hc with hc | hc
        · exact hinner c hc
        · exact List.mem_singleton.1 hc ▸ hk

/-- A new offset for a figure moves what is inside it by just that offset, if nothing inside it has
an offset yet. -/
theorem finalBox_update (hnested : forest.IsNested) {offset : Point}
    (hnone : ∀ c, c = k ∨ k ∈ forest.containers c → offsets c = none)
    (h : i = k ∨ k ∈ forest.containers i) :
    forest.finalBox (Function.update offsets k (some offset)) i =
      (forest.finalBox offsets i).move offset := by
  -- The offsets on the way from the outside to `i` are the old ones down to `k`, then the new one,
  -- and none inside `k`.
  obtain ⟨inner, hpath, hinner⟩ := exists_containers_append hnested h
  have hlt : ∀ c ∈ inner, c ≠ k := by
    intro c hc
    have := hnested.lt_of_mem_containers (hinner c hc)
    omega
  have houter : ∀ c ∈ forest.containers k,
      Function.update offsets k (some offset) c = offsets c := by
    intro c hc
    have := hnested.lt_of_mem_containers hc
    rw [Function.update_of_ne (by omega)]
  have hnew : ∀ c ∈ inner, Function.update offsets k (some offset) c = none := by
    intro c hc
    rw [Function.update_of_ne (hlt c hc)]
    exact hnone c (.inr (hinner c hc))
  have hold : ∀ c ∈ k :: inner, offsets c = none := by
    intro c hc
    rcases List.mem_cons.1 hc with rfl | hc
    · exact hnone c (.inl rfl)
    · exact hnone c (.inr (hinner c hc))
  rw [finalBox_eq_carry, finalBox_eq_carry, hpath, carry_append, carry_append, carry_of_none hold,
    ← List.singleton_append, carry_append, carry_of_none hnew, carry_congr houter]
  change Box.shift _ (Function.update offsets k (some offset) k) = _
  rw [Function.update_self]
  rfl

end Boxes

section Solutions

variable (hnested : forest.IsNested) (hindex : forest.Indexes index)
include hnested hindex

/-- Only the figures that a pass moves have offsets. -/
theorem IsSolution.eq_none_of_notMem_turns (h : forest.IsSolution axis offsets)
    (hi : i ∉ forest.turns axis index) : offsets i = none := by
  rw [mem_turns_iff hnested hindex, not_and_or, not_exists, not_not] at hi
  exact hi.elim (h.untied i) (h.cyclic i)

/-- The equations of a pass have at most one solution. -/
theorem IsSolution.unique (h : forest.IsSolution axis offsets)
    (h' : forest.IsSolution axis offsets') : offsets = offsets' := by
  have houtside : ∀ c, c ∉ forest.turns axis index → offsets c = offsets' c := fun c hc =>
    (h.eq_none_of_notMem_turns hnested hindex hc).trans
      (h'.eq_none_of_notMem_turns hnested hindex hc).symm
  -- The induction is on the figures that have taken their turns.
  have hprefix : ∀ earlier later, forest.turns axis index = earlier ++ later →
      ∀ i ∈ earlier, offsets i = offsets' i := by
    intro earlier
    induction earlier using List.reverseRecOn with
    | nil => exact fun _ _ _ hi => absurd hi List.not_mem_nil
    | append_singleton earlier k ih =>
      intro later hturns i hi
      rw [List.append_assoc, List.singleton_append] at hturns
      rcases List.mem_append.1 hi with hi | hi
      · exact ih _ hturns i hi
      obtain rfl := List.mem_singleton.1 hi
      obtain ⟨⟨tie, htie⟩, hacyclic⟩ :=
        (mem_turns_iff hnested hindex).1 (hturns ▸ List.mem_append_right _ List.mem_cons_self)
      -- What `i` needs had its turn earlier, or has no offset at all.
      have hagree : ∀ c, TransGen (forest.Needs axis) i c → offsets c = offsets' c := by
        intro c hc
        by_cases hturn : c ∈ forest.turns axis index
        · exact ih _ hturns c (mem_of_turns_eq_append hnested hindex hturns hc hturn)
        · exact houtside c hturn
      rw [h.tied i tie htie hacyclic, h'.tied i tie htie hacyclic]
      exact congrArg some (requestedOffset_congr
        (fun c hc => hagree c (transGen_of_mem_containers hnested hc))
        fun c hc => hagree c (htie.transGen hnested hc))
  funext i
  by_cases hi : i ∈ forest.turns axis index
  · exact hprefix _ [] (List.append_nil _).symm i hi
  · exact houtside i hi

end Solutions

end Forest

end BoxArrow
