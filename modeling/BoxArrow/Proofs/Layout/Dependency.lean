import BoxArrow.Layout.Dependency
import Mathlib.Logic.Relation
import Mathlib.Data.List.Basic

/-!
# The walk along dependencies

A depth-first walk comes to every vertex, and to what the vertices that it starts from depend on.
A vertex that does not depend on itself is completed after everything that it depends on, in
whatever order the dependencies are given.

## Main definitions

* `Dependency.DependsOn` — one vertex depends on another directly
* `Walk.IsPending` — the walk has come to the vertex and has not completed it
* `Walk.IsSound` — what holds of a walk at any time
* `Walk.Extends` — what is kept while the walk follows some vertices

## Main results

* `visit_spec` — following a vertex keeps a walk sound and only adds to it
* `mem_reachable_iff`, `onCycle_eq_true_iff` — reachability is the closure of direct dependency
* `completion_perm`, `mem_of_completion_eq_append` — every vertex is completed once, and after
  what it depends on
* `flatten_classes_perm` — the classes of some vertices have just these as members
-/

namespace BoxArrow.Dependency

open Relation

/-- One vertex depends on another directly. -/
def DependsOn (next : Nat → List Nat) (v w : Nat) : Prop := w ∈ next v

namespace Walk

/-- The walk has come to the vertex and has not completed it. -/
def IsPending (walk : Walk) (v : Nat) : Prop := v ∈ walk.seen ∧ v ∉ walk.done

/-- What holds of a walk over the vertices below a number at any time. -/
structure IsSound (next : Nat → List Nat) (n : Nat) (walk : Walk) : Prop where
  nodup_seen : walk.seen.Nodup
  lt_of_mem_seen : ∀ v ∈ walk.seen, v < n
  nodup_done : walk.done.Nodup
  mem_seen_of_mem_done : ∀ v ∈ walk.done, v ∈ walk.seen
  mem_seen_of_dependsOn : ∀ v ∈ walk.done, ∀ w, DependsOn next v w → w ∈ walk.seen
  /-- A vertex off all cycles is completed after everything that it depends on. -/
  mem_of_transGen : ∀ later v earlier, walk.done = later ++ v :: earlier →
    ¬ TransGen (DependsOn next) v v → ∀ w, TransGen (DependsOn next) v w → w ∈ earlier

/-- What is kept while the walk follows the given vertices. -/
structure Extends (next : Nat → List Nat) (roots : List Nat) (walk walk' : Walk) : Prop where
  suffix : walk.seen <:+ walk'.seen
  isPending_iff : ∀ v, walk'.IsPending v ↔ walk.IsPending v
  mem_seen_of_mem : ∀ r ∈ roots, r ∈ walk'.seen
  reached : ∀ v ∈ walk'.seen, v ∈ walk.seen ∨ ∃ r ∈ roots, ReflTransGen (DependsOn next) r v

variable {next : Nat → List Nat} {n v : Nat} {walk walk' walk'' : Walk} {roots roots' : List Nat}

theorem isSound_empty : IsSound next n ⟨[], []⟩ where
  nodup_seen := List.nodup_nil
  lt_of_mem_seen _ hv := absurd hv List.not_mem_nil
  nodup_done := List.nodup_nil
  mem_seen_of_mem_done _ hv := absurd hv List.not_mem_nil
  mem_seen_of_dependsOn _ hv := absurd hv List.not_mem_nil
  mem_of_transGen later v earlier h := by
    exact absurd h.symm (List.append_ne_nil_of_right_ne_nil _ (List.cons_ne_nil v earlier))

theorem not_isPending_empty (v : Nat) : ¬ IsPending ⟨[], []⟩ v :=
  fun h => absurd h.1 List.not_mem_nil

namespace Extends

theorem refl (next : Nat → List Nat) (walk : Walk) : Extends next [] walk walk where
  suffix := List.suffix_rfl
  isPending_iff _ := Iff.rfl
  mem_seen_of_mem _ hr := absurd hr List.not_mem_nil
  reached _ hv := .inl hv

theorem append (h : Extends next roots walk walk') (h' : Extends next roots' walk' walk'') :
    Extends next (roots ++ roots') walk walk'' where
  suffix := h.suffix.trans h'.suffix
  isPending_iff v := (h'.isPending_iff v).trans (h.isPending_iff v)
  mem_seen_of_mem r hr := by
    rcases List.mem_append.1 hr with hr | hr
    · exact h'.suffix.subset (h.mem_seen_of_mem r hr)
    · exact h'.mem_seen_of_mem r hr
  reached v hv := by
    rcases h'.reached v hv with hv | ⟨r, hr, hreach⟩
    · rcases h.reached v hv with hv | ⟨r, hr, hreach⟩
      · exact .inl hv
      · exact .inr ⟨r, List.mem_append_left _ hr, hreach⟩
    · exact .inr ⟨r, List.mem_append_right _ hr, hreach⟩

end Extends

namespace IsSound

/-- A walk that has come to as many vertices as there are has come to all of them. -/
theorem mem_seen_of_le (h : IsSound next n walk) (hlen : n ≤ walk.seen.length) (hv : v < n) :
    v ∈ walk.seen := by
  by_contra hmem
  -- Together with `v` there would be more than `n` vertices below `n`.
  have hsub : v :: walk.seen ⊆ List.range n := by
    intro w hw
    rcases List.mem_cons.1 hw with rfl | hw
    · exact List.mem_range.2 hv
    · exact List.mem_range.2 (h.lt_of_mem_seen w hw)
  have hle := List.Nodup.length_le_of_subset (List.nodup_cons.2 ⟨hmem, h.nodup_seen⟩) hsub
  rw [List.length_cons, List.length_range] at hle
  omega

/-- The walk stays sound when it comes to a new vertex. -/
theorem enter (h : IsSound next n walk) (hmem : v ∉ walk.seen) (hv : v < n) :
    IsSound next n { walk with seen := v :: walk.seen } where
  nodup_seen := List.nodup_cons.2 ⟨hmem, h.nodup_seen⟩
  lt_of_mem_seen w hw := by
    rcases List.mem_cons.1 hw with rfl | hw
    · exact hv
    · exact h.lt_of_mem_seen w hw
  nodup_done := h.nodup_done
  mem_seen_of_mem_done w hw := List.mem_cons_of_mem _ (h.mem_seen_of_mem_done w hw)
  mem_seen_of_dependsOn w hw x hx := List.mem_cons_of_mem _ (h.mem_seen_of_dependsOn w hw x hx)
  mem_of_transGen := h.mem_of_transGen

/-- If a vertex is off all cycles, and what is open leads to it, then everything that it depends on
is completed by the time the walk has followed its direct dependencies. -/
theorem mem_done_of_transGen (h : IsSound next n walk) (hnext : ∀ w ∈ next v, w ∈ walk.seen)
    (hopen : ∀ g, walk.IsPending g → g = v ∨ TransGen (DependsOn next) g v)
    (hacyclic : ¬ TransGen (DependsOn next) v v) {w : Nat}
    (hw : TransGen (DependsOn next) v w) : w ∈ walk.done := by
  -- An open vertex that `v` depends on would close a cycle through `v`.
  have hclosed : ∀ w, TransGen (DependsOn next) v w → w ∈ walk.seen → w ∈ walk.done := by
    intro w hw hseen
    by_contra hdone
    rcases hopen w ⟨hseen, hdone⟩ with rfl | hback
    · exact hacyclic hw
    · exact hacyclic (hw.trans hback)
  induction hw with
  | single hw => exact hclosed _ (.single hw) (hnext _ hw)
  | tail hvw hwx ih => exact hclosed _ (hvw.tail hwx) (h.mem_seen_of_dependsOn _ ih _ hwx)

/-- The walk stays sound when it completes a vertex whose direct dependencies it has come to. -/
theorem complete (h : IsSound next n walk) (hv : walk.IsPending v)
    (hnext : ∀ w ∈ next v, w ∈ walk.seen)
    (hopen : ∀ g, walk.IsPending g → g = v ∨ TransGen (DependsOn next) g v) :
    IsSound next n { walk with done := v :: walk.done } where
  nodup_seen := h.nodup_seen
  lt_of_mem_seen := h.lt_of_mem_seen
  nodup_done := List.nodup_cons.2 ⟨hv.2, h.nodup_done⟩
  mem_seen_of_mem_done w hw := by
    rcases List.mem_cons.1 hw with rfl | hw
    · exact hv.1
    · exact h.mem_seen_of_mem_done w hw
  mem_seen_of_dependsOn w hw x hx := by
    rcases List.mem_cons.1 hw with rfl | hw
    · exact hnext x hx
    · exact h.mem_seen_of_dependsOn w hw x hx
  mem_of_transGen later x earlier heq hacyclic w hw := by
    -- Either `x` is the vertex that has just been completed, or it was completed before.
    rcases List.cons_eq_append_iff.1 heq with ⟨rfl, hx⟩ | ⟨later, rfl, hdone⟩
    · obtain ⟨rfl, rfl⟩ := List.cons.inj hx
      exact h.mem_done_of_transGen hnext hopen hacyclic hw
    · exact h.mem_of_transGen later x earlier hdone hacyclic w hw

/-- A sound walk with nothing open has completed what the vertices that it has come to depend on. -/
theorem mem_seen_of_reflTransGen (h : IsSound next n walk) (hopen : ∀ v, ¬ walk.IsPending v)
    (hv : v ∈ walk.seen) {w : Nat} (hw : ReflTransGen (DependsOn next) v w) : w ∈ walk.seen := by
  induction hw with
  | refl => exact hv
  | tail _ hwx ih =>
    have hdone := not_not.1 fun hdone => hopen _ ⟨ih, hdone⟩
    exact h.mem_seen_of_dependsOn _ hdone _ hwx

end IsSound

end Walk

section Visit

open Walk

variable {next : Nat → List Nat} {n v : Nat} {walk : Walk}

/-- Following one vertex after the other, if following one of them is as it should be. -/
theorem foldl_spec {f : Walk → Nat → Walk} {steps : Nat}
    (hf : ∀ v walk, IsSound next n walk → v < n → n ≤ steps + walk.seen.length →
      (∀ g, walk.IsPending g → TransGen (DependsOn next) g v) →
      IsSound next n (f walk v) ∧ Extends next [v] walk (f walk v))
    (roots : List Nat) (walk : Walk) (h : IsSound next n walk) (hlt : ∀ r ∈ roots, r < n)
    (hlen : n ≤ steps + walk.seen.length)
    (hopen : ∀ g, walk.IsPending g → ∀ r ∈ roots, TransGen (DependsOn next) g r) :
    IsSound next n (roots.foldl f walk) ∧ Extends next roots walk (roots.foldl f walk) := by
  induction roots generalizing walk with
  | nil => exact ⟨h, .refl next walk⟩
  | cons r roots ih =>
    obtain ⟨hsound, hext⟩ :=
      hf r walk h (hlt r List.mem_cons_self) hlen fun g hg => hopen g hg r List.mem_cons_self
    -- The walk has only grown, so the steps still suffice, and nothing new is left open.
    have hle := hext.suffix.length_le
    obtain ⟨hsound', hext'⟩ :=
      ih (f walk r) hsound (fun x hx => hlt x (List.mem_cons_of_mem _ hx)) (by omega)
        fun g hg x hx => hopen g ((hext.isPending_iff g).1 hg) x (List.mem_cons_of_mem _ hx)
    exact ⟨hsound', hext.append hext'⟩

/-- Following a vertex keeps a walk sound and only adds to it. The open vertices, which the walk is
on its way from, all lead to the vertex. -/
theorem visit_spec (hnext : ∀ v, ∀ w ∈ next v, w < n) (steps : Nat) (v : Nat) (walk : Walk)
    (h : IsSound next n walk) (hv : v < n) (hlen : n ≤ steps + walk.seen.length)
    (hopen : ∀ g, walk.IsPending g → TransGen (DependsOn next) g v) :
    IsSound next n (visit next steps v walk) ∧
      Extends next [v] walk (visit next steps v walk) := by
  -- The steps never run out: each one that is spent comes to a vertex for the first time.
  induction steps generalizing v walk with
  | zero =>
    have hseen : v ∈ walk.seen := h.mem_seen_of_le (by omega) hv
    exact ⟨h, List.suffix_rfl, fun _ => Iff.rfl, fun r hr => List.mem_singleton.1 hr ▸ hseen,
      fun _ hw => .inl hw⟩
  | succ steps ih =>
    rw [visit]
    by_cases hseen : v ∈ walk.seen
    · rw [if_pos (List.contains_iff_mem.2 hseen)]
      exact ⟨h, List.suffix_rfl, fun _ => Iff.rfl, fun r hr => List.mem_singleton.1 hr ▸ hseen,
        fun _ hw => .inl hw⟩
    rw [if_neg (by rwa [List.contains_iff_mem])]
    have hentered := h.enter hseen hv
    -- What is open now is `v` itself, or led to `v` before.
    have hgray : ∀ g, IsPending { walk with seen := v :: walk.seen } g →
        g = v ∨ TransGen (DependsOn next) g v := by
      intro g hg
      rcases List.mem_cons.1 hg.1 with rfl | hmem
      · exact .inl rfl
      · exact .inr (hopen g ⟨hmem, hg.2⟩)
    have hfuel : n ≤ steps + (v :: walk.seen).length := by
      rw [List.length_cons]
      omega
    obtain ⟨hsound, hext⟩ :=
      foldl_spec (f := fun walk w => visit next steps w walk) (fun w walk => ih w walk) (next v) _
        hentered (hnext v) hfuel fun g hg w hw => by
          rcases hgray g hg with rfl | hgv
          · exact .single hw
          · exact hgv.tail hw
    have hnotDone : v ∉ walk.done := fun hdone => hseen (h.mem_seen_of_mem_done v hdone)
    have hopened : IsPending _ v := (hext.isPending_iff v).2 ⟨List.mem_cons_self, hnotDone⟩
    refine ⟨hsound.complete hopened hext.mem_seen_of_mem fun g hg =>
      hgray g ((hext.isPending_iff g).1 hg), ?_, fun g => ?_, ?_, fun w hw => ?_⟩
    · exact (List.suffix_cons v walk.seen).trans hext.suffix
    · -- The vertex is open while its dependencies are followed, and at no other time.
      have hiff := hext.isPending_iff g
      by_cases hg : g = v
      · subst hg
        simp [IsPending, hseen]
      · simpa [IsPending, hg] using hiff
    · exact fun r hr => List.mem_singleton.1 hr ▸ hopened.1
    · rcases hext.reached w hw with hmem | ⟨r, hr, hreach⟩
      · rcases List.mem_cons.1 hmem with rfl | hmem
        · exact .inr ⟨w, List.mem_singleton_self w, .refl⟩
        · exact .inl hmem
      · exact .inr ⟨v, List.mem_singleton_self v, .head hr hreach⟩

end Visit

section Results

open Walk

variable {next : Nat → List Nat} {n v : Nat}

theorem mem_reachable_iff (hnext : ∀ v, ∀ w ∈ next v, w < n) (hv : v < n) (w : Nat) :
    w ∈ reachable next n v ↔ ReflTransGen (DependsOn next) v w := by
  obtain ⟨hsound, hext⟩ :=
    visit_spec hnext n v ⟨[], []⟩ isSound_empty hv (Nat.le_add_right _ _)
      fun g hg => absurd hg (not_isPending_empty g)
  have hclosed : ∀ g, ¬ IsPending _ g :=
    fun g hg => not_isPending_empty g ((hext.isPending_iff g).1 hg)
  constructor
  · intro hw
    rcases hext.reached w hw with hmem | ⟨r, hr, hreach⟩
    · exact absurd hmem List.not_mem_nil
    · exact List.mem_singleton.1 hr ▸ hreach
  · exact hsound.mem_seen_of_reflTransGen hclosed
      (hext.mem_seen_of_mem v (List.mem_singleton_self v))

theorem onCycle_eq_true_iff (hnext : ∀ v, ∀ w ∈ next v, w < n) (v : Nat) :
    onCycle next n v = true ↔ TransGen (DependsOn next) v v := by
  -- A cycle through `v` is one step to some `w` and a walk back.
  rw [onCycle, List.any_eq_true, TransGen.head'_iff]
  refine exists_congr fun w => and_congr_right fun hw => ?_
  rw [List.contains_iff_mem, mem_reachable_iff hnext (hnext v w hw)]

theorem completion_spec (hnext : ∀ v, ∀ w ∈ next v, w < n) :
    ∃ walk, IsSound next n walk ∧ Extends next (List.range n) ⟨[], []⟩ walk ∧
      completion next n = walk.done.reverse := by
  obtain ⟨hsound, hext⟩ :=
    foldl_spec (f := fun walk v => visit next n v walk) (visit_spec hnext n) (List.range n)
      ⟨[], []⟩ isSound_empty (fun v hv => List.mem_range.1 hv) (Nat.le_add_right _ _)
      fun g hg => absurd hg (not_isPending_empty g)
  exact ⟨_, hsound, hext, rfl⟩

/-- Every vertex is completed once. -/
theorem completion_perm (hnext : ∀ v, ∀ w ∈ next v, w < n) :
    (completion next n).Perm (List.range n) := by
  obtain ⟨walk, hsound, hext, hcompletion⟩ := completion_spec hnext
  rw [hcompletion]
  refine (List.reverse_perm _).trans ?_
  refine (List.perm_ext_iff_of_nodup hsound.nodup_done List.nodup_range).2 fun v => ?_
  constructor
  · intro hv
    exact List.mem_range.2 (hsound.lt_of_mem_seen v (hsound.mem_seen_of_mem_done v hv))
  · intro hv
    -- Nothing is open in the end, as nothing was in the beginning.
    by_contra hdone
    exact not_isPending_empty v ((hext.isPending_iff v).1 ⟨hext.mem_seen_of_mem v hv, hdone⟩)

/-- A vertex off all cycles is completed after everything that it depends on. -/
theorem mem_of_completion_eq_append (hnext : ∀ v, ∀ w ∈ next v, w < n) {earlier later : List Nat}
    (h : completion next n = earlier ++ v :: later) (hacyclic : ¬ TransGen (DependsOn next) v v)
    {w : Nat} (hw : TransGen (DependsOn next) v w) : w ∈ earlier := by
  obtain ⟨walk, hsound, -, hcompletion⟩ := completion_spec hnext
  -- The walk puts the vertex that it completes in front of those completed before.
  have hdone : walk.done = later.reverse ++ v :: earlier.reverse := by
    rw [← List.reverse_reverse walk.done, ← hcompletion, h]
    simp
  exact List.mem_reverse.1 (hsound.mem_of_transGen _ v _ hdone hacyclic w hw)

theorem flatten_classesBy_perm (related : Nat → Nat → Bool) (vertices : List Nat) :
    (classesBy related vertices).flatten.Perm vertices := by
  induction vertices using classesBy.induct related with
  | case1 => rw [classesBy, List.flatten_nil]
  | case2 v rest ih =>
    simp only [List.unattach_filter, List.unattach_attach] at ih
    rw [classesBy, List.flatten_cons, List.cons_append]
    exact ((ih.append_left _).trans (List.filter_append_perm (related v) rest)).cons v

/-- The classes of some vertices have just these as members. -/
theorem flatten_classes_perm (next : Nat → List Nat) (n : Nat) (completed : List Nat) :
    (classes next n completed).flatten.Perm completed := by
  have hsorted : ∀ l : List (List Nat), (l.map (·.mergeSort (· ≤ ·))).flatten.Perm l.flatten := by
    intro l
    induction l with
    | nil => exact .refl _
    | cons c l ih => exact (List.mergeSort_perm c _).append ih
  rw [classes]
  refine (hsorted _).trans ?_
  refine (List.reverse_perm _).flatten.trans ?_
  exact (flatten_classesBy_perm _ _).trans (List.reverse_perm _)

end Results

end BoxArrow.Dependency
