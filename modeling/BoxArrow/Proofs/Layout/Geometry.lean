import BoxArrow.Proofs.Layout.Literals
import Mathlib.Data.List.NodupEquivFin

/-!
# Components of literal position and extent

A component that stands alone on the canvas, without a body and without references, is placed by
the integers of its blocks. Its position is the last one given, and its extent what is left of the
last one given after the box was put at two positions.

## Main results

* `Forest.getElem?_settle_of_free` — ties do not move a figure that stands alone
* `Planner.plan_literal_geometry` — the place of a component in a layout
-/

namespace BoxArrow

namespace Forest

variable {forest : Forest} {figure : Figure} {axis : Axis} {i : Nat}

/-- A pass leaves a figure where it is if it has no container and no reference on the axis. -/
theorem getElem?_settleAxis_of_free (hnested : forest.IsNested) (hi : forest[i]? = some figure)
    (hparent : figure.parent = none) (hreference : figure.reference axis = none) :
    (forest.settleAxis forest.lastIndex axis).1[i]? = some figure := by
  obtain ⟨offsets, haccount⟩ := exists_isAccount hnested axis
  have hnone : forest.referenceOf axis i = none := by
    rw [referenceOf, hi]
    exact hreference
  have hcontainers : forest.containers i = [] := by
    apply containers_of_none
    rw [parentOf, hi]
    exact hparent
  rw [(haccount.carried i (.inl hnone)).2, carriedBox, hcontainers, boxOf, hi]
  rfl

/-- Passes leave a figure where it is if it has no container and no references. -/
theorem getElem?_afterPasses_of_free (hnested : forest.IsNested) (hi : forest[i]? = some figure)
    (hparent : figure.parent = none) (hreference : ∀ axis, figure.reference axis = none)
    (passes : List Axis) :
    (afterPasses forest.lastIndex forest passes)[i]? = some figure := by
  induction passes using List.reverseRecOn with
  | nil => exact hi
  | append_singleton passes axis ih =>
    obtain ⟨boxes, hboxes⟩ := afterPasses_eq_withBoxes hnested (indexes_lastIndex forest) passes
    rw [hboxes] at ih
    rw [afterPasses_append_singleton, hboxes, ← lastIndex_withBoxes forest boxes]
    exact getElem?_settleAxis_of_free (hnested.withBoxes boxes) ih hparent (hreference axis)

/-- Ties leave a figure where it is if it has no container and no references. -/
theorem getElem?_settle_of_free (hnested : forest.IsNested) (hi : forest[i]? = some figure)
    (hparent : figure.parent = none) (hreference : ∀ axis, figure.reference axis = none) :
    (forest.settle forest.lastIndex).1[i]? = some figure := by
  rw [settle_fst]
  exact getElem?_afterPasses_of_free hnested hi hparent hreference _

theorem mem_rowsOf {catalog : Catalog} {d : Declaration} {declarations : List Declaration}
    (hd : d ∈ declarations) :
    ((Figure.ofDeclaration catalog none d).1.alone, none) ∈ rowsOf catalog none declarations := by
  induction declarations with
  | nil => cases hd
  | cons d' declarations ih =>
    rw [rowsOf_cons]
    rcases List.mem_cons.1 hd with rfl | hd
    · exact List.mem_cons_self
    · exact List.mem_cons_of_mem _ (List.mem_append_right _ (ih hd))

/-- A declaration outside of all others has a figure without a container. -/
theorem exists_getElem?_place (catalog : Catalog) {d : Declaration}
    {declarations : List Declaration} (hd : d ∈ declarations) :
    ∃ (i : Nat) (figure : Figure),
      (place catalog none declarations ([], [])).1[i]? = some figure ∧
        figure.parent = none ∧ figure.alone = (Figure.ofDeclaration catalog none d).1.alone := by
  have hrow : ((Figure.ofDeclaration catalog none d).1.alone, none) ∈
      (place catalog none declarations ([], [])).1.rows := by
    rw [(rows_place catalog declarations none ([], []) isNested_nil nofun).1]
    exact mem_rowsOf hd
  obtain ⟨figure, hfigure, hrow⟩ := List.mem_map.1 hrow
  obtain ⟨i, hi⟩ := List.mem_iff_getElem?.1 hfigure
  obtain ⟨halone, harea⟩ := Prod.mk.inj hrow
  have hparent := (isNested_place catalog declarations).lt_length_of_parent hi
  refine ⟨i, figure, hi, ?_, halone⟩
  rcases exists_figure_of_areaOf hparent with ⟨p, container, -, -, hsome⟩ | ⟨hnone, -⟩
  · rw [harea] at hsome
    cases hsome
  · exact hnone

end Forest

theorem eq_of_count_eq_one {list : List String} {id : String} {i j : Nat}
    (hcount : list.count id = 1) (hi : list[i]? = some id) (hj : list[j]? = some id) : i = j := by
  by_contra hne
  wlog hlt : i < j generalizing i j
  · exact this hj hi (Ne.symm hne) (by omega)
  obtain ⟨hi, hid⟩ := List.getElem?_eq_some_iff.1 hi
  obtain ⟨hj, hid'⟩ := List.getElem?_eq_some_iff.1 hj
  have hduplicate : list.Duplicate id :=
    List.duplicate_iff_exists_distinct_get.2 ⟨⟨i, hi⟩, ⟨j, hj⟩, hlt, hid.symm, hid'.symm⟩
  have := List.duplicate_iff_two_le_count.1 hduplicate
  omega

namespace Forest

/-- The components of a forest are found by the last figures that bear their identifiers. -/
theorem find?_reverse_map (forest : Forest) {g : Figure → Component} (hg : ∀ f, (g f).id = f.id)
    (id : String) :
    (forest.map g).reverse.find? (·.id = id) =
      (forest.lastIndex.get? id).bind fun i => forest[i]?.map g := by
  induction forest using List.reverseRecOn with
  | nil => rfl
  | append_singleton forest figure ih =>
    rw [get?_lastIndex_concat, List.map_append, List.reverse_append, List.map_singleton,
      List.reverse_singleton, List.singleton_append, List.find?_cons, hg]
    by_cases hid : figure.id = id
    · simp [hid]
    · rw [decide_eq_false hid, if_neg hid, ih]
      refine Option.bind_congr fun i hi => ?_
      rw [List.getElem?_append_left ((indexes_lastIndex forest).lt_length hi)]

end Forest

namespace Planner

variable (planner : Planner) (document : Document)

theorem component?_plan (id : String) :
    (planner.plan document).component? id =
      ((planner.placed document).1.lastIndex.get? id).bind fun i =>
        (planner.settled document).1[i]?.map (component (planner.settled document).1) := by
  rw [Layout.component?, components_plan, ← lastIndex_settled]
  exact Forest.find?_reverse_map _ (fun _ => rfl) id

variable {d : Declaration}

/-- A component that is declared once, outside of all others, and that is not to be aligned, stays
where its blocks have put it. -/
theorem exists_component_of_free (hd : d ∈ document.declarations)
    (honce : (Declaration.names document.declarations).count d.name = 1)
    (hfree : ∀ axis, (Figure.ofDeclaration planner.catalog none d).1.reference axis = none) :
    ∃ component, (planner.plan document).component? d.name = some component ∧
      (planner.plan document).places.get? d.name = some component.box ∧
      component.box = (Figure.ofDeclaration planner.catalog none d).1.box := by
  obtain ⟨i, figure, hi, hparent, halone⟩ := Forest.exists_getElem?_place planner.catalog hd
  obtain ⟨hid, -, -, hbox, -⟩ := Figure.eq_of_apart_eq halone
  rw [Figure.id_ofDeclaration] at hid
  have hreference (axis : Axis) : figure.reference axis = none := by
    have hsame := congrArg (Figure.reference · axis) halone
    rwa [Figure.reference_apart, Figure.reference_apart, hfree axis, Option.map_none,
      Option.map_eq_none_iff] at hsame
  have hsettled : (planner.settled document).1[i]? = some figure :=
    Forest.getElem?_settle_of_free (Forest.isNested_place ..) hi hparent hreference
  have hnames (j : Nat) (f : Figure) (hj : (planner.placed document).1[j]? = some f) :
      (Declaration.names document.declarations)[j]? = some f.id := by
    rw [← Forest.map_id_place planner.catalog, List.getElem?_map]
    exact congrArg (Option.map Figure.id) hj
  -- The identifier is declared once, so the index leads to this figure.
  have hlast : (planner.placed document).1.lastIndex.get? d.name = some i := by
    refine Forest.get?_lastIndex_eq_some_iff_isLast.2 ⟨⟨figure, hi, hid⟩, fun j f hj hf => ?_⟩
    exact (eq_of_count_eq_one honce (hf ▸ hnames j f hj) (hid ▸ hnames i figure hi)).le
  refine ⟨component (planner.settled document).1 figure, ?_, ?_, hbox⟩
  · rw [component?_plan, hlast, Option.bind_some, hsettled, Option.map_some]
  · rw [get?_places, hlast, Option.map_some, Forest.boxOf, hsettled]
    rfl

/-- The place of a component that stands alone on the canvas. Its position is the last one that its
blocks give. Its extent is the last one given as long as the last edge lies on the canvas, and
otherwise what is left of it where the first block has put the box and where it is in the end. -/
theorem plan_literal_geometry (hd : d ∈ document.declarations) (hbody : d.isContainer = false)
    (honce : (Declaration.names document.declarations).count d.name = 1)
    (htype : planner.catalog.typeFor d.typeName false ∈ ComponentType.builtIn)
    (hfree : ∀ block ∈ d.applied planner.catalog, ∀ axis, ¬ block.AlignsOn axis) :
    ∃ component, (planner.plan document).component? d.name = some component ∧
      (planner.plan document).places.get? d.name = some component.box ∧
      ∀ axis, ∃ default,
        IsCanvasExtent default ((planner.catalog.typeFor d.typeName false).size.extent axis) ∧
        let x₀ := (lastLiteral? axis.name (d.ownApplied planner.catalog)).getD 0
        let x := (lastLiteral? axis.name (d.applied planner.catalog)).getD 0
        let n := (lastLiteral? axis.extentKey (d.applied planner.catalog)).getD default
        OnCanvas x ∧ IsExtent n ∧ component.box.start axis = Float32.ofInt x ∧
          component.box.extent axis = Float32.ofInt (keptExtent x (keptExtent x₀ n)) ∧
          (x₀ + n ≤ canvasLimit → x + n ≤ canvasLimit →
            component.box.extent axis = Float32.ofInt n) := by
  have hput (axis : Axis) {default : Int}
      (hdefault : IsCanvasExtent default
        ((planner.catalog.typeFor d.typeName false).size.extent axis)) :=
    Figure.isPut_ofDeclaration hbody hdefault fun block hblock => hfree block hblock axis
  -- A figure that is aligned to nothing is not moved after its blocks have put it.
  have hreference (axis : Axis) :
      (Figure.ofDeclaration planner.catalog none d).1.reference axis = none := by
    obtain ⟨default, hdefault⟩ := ComponentType.exists_isCanvasExtent htype axis
    exact (hput axis hdefault).reference_eq
  obtain ⟨component, hcomponent, hplace, hbox⟩ :=
    exists_component_of_free planner document hd honce hreference
  refine ⟨component, hcomponent, hplace, fun axis => ?_⟩
  obtain ⟨default, hdefault⟩ := ComponentType.exists_isCanvasExtent htype axis
  refine ⟨default, hdefault, ?_⟩
  intro x₀ x n
  have hspans : component.box.Spans axis x (keptExtent x₀ n) := hbox ▸ (hput axis hdefault).spans
  have hextent : IsExtent n := Figure.isExtent_lastLiteral?_applied hbody hdefault.1
  refine ⟨hspans.onCanvas, hextent, hspans.start_eq, hspans.extent_eq, fun hx₀ hx => ?_⟩
  have hkept₀ : keptExtent x₀ n = n := (keptExtent_eq_self_iff hextent).2 (.inl hx₀)
  have hkept : keptExtent x n = n := (keptExtent_eq_self_iff hextent).2 (.inl hx)
  rw [hspans.extent_eq, hkept₀, hkept]

/-- A width that is lost where the first block puts the box. -/
theorem plan_literal_geometry_two_blocks :
    let own : StateDeclaration := ⟨"a", "x:16777215,w:2", ⟨6, 27⟩⟩
    let tag : StateDeclaration := ⟨"s", "x:10", ⟨28, 36⟩⟩
    let states := (OrderedMap.empty.insert "a" own).insert "s" tag
    let d : Declaration := ⟨"a", none, some "s", ⟨0, 5⟩, 0, false, states, []⟩
    ∃ component, (standard.plan ⟨[d], states, []⟩).component? "a" = some component ∧
      component.box.start .horizontal = Float32.ofInt 10 ∧
      component.box.extent .horizontal = Float32.ofInt 1 := by
  intro own tag states d
  have honce : (Declaration.names [d]).count "a" = 1 := by
    simp [d, Declaration.names]
  have htype : standard.catalog.typeFor none false ∈ ComponentType.builtIn := by
    simp [Catalog.typeFor, Catalog.fallback, ComponentType.builtIn]
  have happlied : d.applied standard.catalog = [own, tag] := by decide +kernel
  have hfree : ∀ block ∈ d.applied standard.catalog, ∀ axis, ¬ block.AlignsOn axis := by
    rw [happlied]
    intro block hblock axis
    cases axis <;> revert block <;> decide +kernel
  obtain ⟨component, hcomponent, -, hplace⟩ :=
    plan_literal_geometry standard ⟨[d], states, []⟩ List.mem_cons_self rfl honce htype hfree
  obtain ⟨default, -, -, -, hstart, hextent, -⟩ := hplace .horizontal
  have hn : lastLiteral? "w" (d.applied standard.catalog) = some 2 := by decide +kernel
  refine ⟨component, hcomponent, hstart.trans (congrArg _ ?_), hextent.trans (congrArg _ ?_)⟩
  · decide +kernel
  · rw [Axis.extentKey, hn, Option.getD_some]
    decide +kernel

/-- A width that is given for the greatest position and lost. -/
theorem compile_lost_extent :
    ∃ layout component, standard.compile "a\n@a(x: 16777216, w: 1)" = .ok layout ∧
      layout.component? "a" = some component ∧
      component.box.start .horizontal = Float32.ofInt 16777216 ∧
      component.box.extent .horizontal ≠ Float32.ofInt 1 := by
  let block : StateDeclaration := ⟨"a", "x:16777216,w:1", ⟨2, 23⟩⟩
  let d : Declaration :=
    ⟨"a", none, none, ⟨0, 1⟩, 0, false, OrderedMap.empty.insert "a" block, []⟩
  let document : Document := ⟨[d], OrderedMap.empty.insert "a" block, []⟩
  have hread : Statement.ofTokens (Token.scan "a\n@a(x: 16777216, w: 1)") =
      .ok [.declaration ⟨"a", none, none, ⟨0, 1⟩⟩ none, .state block] := by
    decide +kernel
  have hsource : Document.ofSource "a\n@a(x: 16777216, w: 1)" = .ok document :=
    Document.ofSource_eq_ok_iff.2 ⟨_, hread, rfl⟩
  have honce : (Declaration.names document.declarations).count "a" = 1 := by
    simp [document, d, Declaration.names]
  have hfree (axis : Axis) :
      (Figure.ofDeclaration standard.catalog none d).1.reference axis = none := by
    cases axis <;> decide +kernel
  obtain ⟨component, hcomponent, -, hbox⟩ :=
    exists_component_of_free standard document List.mem_cons_self honce hfree
  refine ⟨_, component, congrArg _ hsource, hcomponent, ?_⟩
  rw [hbox]
  decide +kernel

end Planner

end BoxArrow
