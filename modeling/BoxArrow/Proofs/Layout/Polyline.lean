import BoxArrow.Proofs.Binary32.Signs
import BoxArrow.Proofs.Layout.Lookup

/-!
# The points of an arrow

An arrow leads from its anchor on the place of the one component to its anchor on the place of the
other. It is a straight line if these points share a coordinate, as far as coordinates are told
apart. Otherwise it has two bends and three segments along alternating axes. The padding between the
start and the first bend is added or subtracted as such: multiplying it by a direction does not
round.

## Main definitions

* `Route.turn` — a coordinate with the padding added or subtracted
* `Route.IsPolyline` — the points of a straight line or of an elbow

## Main results

* `Route.isPolyline_between` — the points of a route
* `Planner.compile_polylines` — the points of the arrows of a layout
-/

namespace BoxArrow

namespace Route

/-- Coordinates that count as equal. -/
def AreClose (a b : Float32) : Prop := (a - b).abs < tolerance

/-- A coordinate with the padding subtracted, for the near side, or else added. -/
def turn (side : Side) (coordinate padding : Float32) : Float32 :=
  match side with
  | .near => coordinate - padding
  | _ => coordinate + padding

/-- The side that a connection leaves for along an axis: that of the source's anchor, else that of
the target's. -/
def leavingSide (axis : Axis) (source target : Anchor) : Side :=
  if source.side axis ≠ .middle then source.side axis else target.side axis

/-- The points of a straight line or of an elbow. All segments of an elbow run along an axis, since
their ends share a coordinate. -/
inductive IsPolyline (start : Point) (source : Anchor) (stop : Point) (target : Anchor)
    (padding : Float32) : List Point → Prop
  | straight : AreClose start.x stop.x ∨ AreClose start.y stop.y →
      IsPolyline start source stop target padding [start, stop]
  | vertical {b : Float32} : ¬ AreClose start.x stop.x → ¬ AreClose start.y stop.y →
      source.horizontal = .middle ∧ source.vertical ≠ .middle →
      b = turn (leavingSide .vertical source target) start.y padding →
      IsPolyline start source stop target padding
        [⟨start.x, start.y⟩, ⟨start.x, b⟩, ⟨stop.x, b⟩, ⟨stop.x, stop.y⟩]
  | horizontal {b : Float32} : ¬ AreClose start.x stop.x → ¬ AreClose start.y stop.y →
      ¬ (source.horizontal = .middle ∧ source.vertical ≠ .middle) →
      b = turn (leavingSide .horizontal source target) start.x padding →
      IsPolyline start source stop target padding
        [⟨start.x, start.y⟩, ⟨b, start.y⟩, ⟨b, stop.y⟩, ⟨stop.x, stop.y⟩]

variable {start stop : Point} {source target : Anchor} {padding : Float32}

theorem isLevelWith_iff :
    start.isLevelWith tolerance stop = true ↔
      AreClose start.x stop.x ∨ AreClose start.y stop.y := by
  simp [Point.isLevelWith, AreClose]

/-- Going a distance in a direction is adding or subtracting it. -/
theorem add_direction_mul (side : Side) (hside : side ≠ .middle) (coordinate padding : Float32) :
    coordinate + direction side * padding = turn side coordinate padding := by
  cases side with
  | near => rw [direction, Binary32.neg_one_mul, Binary32.add_neg, turn]
  | middle => exact absurd rfl hside
  | far =>
    rw [direction, Binary32.one_mul]
    rfl

theorem add_leavingDirection_mul (axis : Axis) (source target : Anchor)
    (coordinate padding : Float32) :
    coordinate + leavingDirection axis source target * padding =
      turn (leavingSide axis source target) coordinate padding := by
  unfold leavingDirection leavingSide
  split
  · rename_i hsource
    exact add_direction_mul _ hsource coordinate padding
  · split
    · rename_i htarget
      exact add_direction_mul _ htarget coordinate padding
    · rename_i htarget
      rw [Binary32.one_mul, not_not.1 htarget]
      rfl

/-- The points of a route. -/
theorem isPolyline_between (start : Point) (source : Anchor) (stop : Point) (target : Anchor)
    (padding : Float32) :
    IsPolyline start source stop target padding
      (between start source stop target padding).points := by
  unfold between
  split
  · rename_i hlevel
    exact .straight (isLevelWith_iff.1 hlevel)
  · rename_i hlevel
    obtain ⟨hx, hy⟩ := not_or.1 (isLevelWith_iff.not.1 hlevel)
    unfold leavingAxis
    by_cases haxis : source.horizontal = .middle ∧ source.vertical ≠ .middle
    · rw [if_pos haxis]
      exact .vertical hx hy haxis (add_leavingDirection_mul ..)
    · rw [if_neg haxis]
      exact .horizontal hx hy haxis (add_leavingDirection_mul ..)

/-! ### The first and the last point, and the bends -/

variable (route : Route)

theorem length_points : route.points.length = route.bends.length + 2 := by
  simp [points]

theorem getElem?_points_zero : route.points[0]? = some route.start := rfl

theorem getElem?_points_last : route.points[route.points.length - 1]? = some route.stop := by
  rw [length_points, points]
  simp

theorem extract_points : route.points.extract 1 (route.points.length - 1) = route.bends := by
  rw [length_points, points]
  simp

end Route

namespace Planner

/-- The arrows of a layout hit their anchors on the final places of the components, and their points
are those of a straight line or of an elbow, the first, the last and the bends among them. -/
theorem compile_polylines {planner : Planner} {source : String} {layout : Layout} {arrow : Arrow}
    (h : planner.compile source = .ok layout) (harrow : arrow ∈ layout.arrows) :
    ∃ c c', layout.component? arrow.source = some c ∧
      layout.places.get? arrow.source = some c.box ∧
      layout.component? arrow.target = some c' ∧
      layout.places.get? arrow.target = some c'.box ∧
      let points := arrow.route.points
      let start := arrow.sourceAnchor.placeOn c.box
      let stop := arrow.targetAnchor.placeOn c'.box
      points.head? = some start ∧ points.getLast? = some stop ∧
      Route.IsPolyline start arrow.sourceAnchor stop arrow.targetAnchor planner.padding points ∧
      1 ≤ points.length - 1 ∧ points[0]? = some arrow.route.start ∧
      points[points.length - 1]? = some arrow.route.stop ∧
      points.extract 1 (points.length - 1) = arrow.route.bends := by
  obtain ⟨document, -, rfl⟩ := map_eq_ok_iff.1 h
  obtain ⟨box, box', hbox, hbox', hroute⟩ := planner.exists_of_mem_arrows harrow
  rw [planner.get?_places_eq_map_component?, Option.map_eq_some_iff] at hbox hbox'
  obtain ⟨c, hc, rfl⟩ := hbox
  obtain ⟨c', hc', rfl⟩ := hbox'
  have hstart : arrow.route.start = arrow.sourceAnchor.placeOn c.box := by
    rw [hroute, Route.start_between]
  have hstop : arrow.route.stop = arrow.targetAnchor.placeOn c'.box := by
    rw [hroute, Route.stop_between]
  refine ⟨c, c', hc, ?_, hc', ?_, ?_, ?_, ?_, ?_, arrow.route.getElem?_points_zero,
    arrow.route.getElem?_points_last, arrow.route.extract_points⟩
  · rw [planner.get?_places_eq_map_component?, hc, Option.map_some]
  · rw [planner.get?_places_eq_map_component?, hc', Option.map_some]
  · rw [List.head?_eq_getElem?, Route.getElem?_points_zero, hstart]
  · rw [List.getLast?_eq_getElem?, Route.getElem?_points_last, hstop]
  · rw [hroute]
    exact Route.isPolyline_between ..
  · rw [Route.length_points]
    omega

/-- Both boxes are 120 by 60 at the origin. The arrow leaves upwards, and turns twice. -/
theorem compile_polylines_elbow :
    ∃ layout arrow, standard.compile "a\nb\na.n --> b.e" = .ok layout ∧ arrow ∈ layout.arrows ∧
      arrow.route.points = [⟨60, 0⟩, ⟨60, -24⟩, ⟨120, -24⟩, ⟨120, 30⟩] := by
  let d (name : String) (span : Span) : Declaration :=
    ⟨name, none, none, span, 0, false, OrderedMap.empty, []⟩
  let c : Connection := ⟨"a", Anchor.ofText "n", "b", Anchor.ofText "e", "", ⟨4, 15⟩⟩
  let document : Document := ⟨[d "a" ⟨0, 1⟩, d "b" ⟨2, 3⟩], OrderedMap.empty, [c]⟩
  have hread : Statement.ofTokens (Token.scan "a\nb\na.n --> b.e") =
      .ok [.declaration ⟨"a", none, none, ⟨0, 1⟩⟩ none, .declaration ⟨"b", none, none, ⟨2, 3⟩⟩ none,
        .connection c] := by
    decide +kernel
  have hsource : Document.ofSource "a\nb\na.n --> b.e" = .ok document :=
    Document.ofSource_eq_ok_iff.2 ⟨_, hread, rfl⟩
  have hcompile : standard.compile "a\nb\na.n --> b.e" = .ok (standard.plan document) :=
    congrArg _ hsource
  have hnames : Declaration.names document.declarations = ["a", "b"] := by
    simp [document, d, Declaration.names]
  have hrouted : isRouted (standard.plan document).places c = true := by
    rw [isRouted_places_iff, ← Document.mem_names_iff, ← Document.mem_names_iff, hnames]
    decide
  let arrow : Arrow := standard.arrowFor (standard.plan document).places 0 c
  have harrow : arrow ∈ (standard.plan document).arrows := by
    rw [arrows_plan]
    simp [document, hrouted, arrow]
  let box : Box := (Figure.ofDeclaration standard.catalog none (d "a" ⟨0, 1⟩)).1.box
  -- No block is declared, so both boxes have the default size and are at the origin.
  have hplace (name : String) (span : Span) (hd : d name span ∈ document.declarations)
      (honce : ["a", "b"].count name = 1) :
      (standard.plan document).places.get? name = some box := by
    obtain ⟨component, -, hplace, hbox⟩ := exists_component_of_free standard document hd
      (hnames ▸ honce) (fun axis => by cases axis <;> rfl)
    rw [hplace, hbox]
    rfl
  obtain ⟨_, _, -, ha, -, hb, -, -, hline, -⟩ := compile_polylines hcompile harrow
  have hboxa := Option.some.inj ((hplace "a" _ List.mem_cons_self rfl).symm.trans ha)
  have hboxb := Option.some.inj
    ((hplace "b" _ (List.mem_cons_of_mem _ List.mem_cons_self) rfl).symm.trans hb)
  rw [← hboxa, ← hboxb] at hline
  refine ⟨_, _, hcompile, harrow, ?_⟩
  generalize arrow.route.points = points at hline ⊢
  cases hline with
  | straight hclose =>
    refine absurd hclose (not_or.2 ⟨?_, ?_⟩) <;> unfold Route.AreClose <;> decide +kernel
  | vertical _ _ _ hb =>
    rw [hb]
    simp only [List.cons.injEq, Point.mk.injEq, and_true]
    decide +kernel
  | horizontal _ _ haxis => exact absurd (by decide) haxis

end Planner

end BoxArrow
