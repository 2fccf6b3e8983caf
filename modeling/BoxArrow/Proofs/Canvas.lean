import BoxArrow.Proofs.Binary32.Zero
import BoxArrow.Proofs.Document.States
import BoxArrow.Proofs.Layout.Plan
import BoxArrow.Proofs.Outcome
import BoxArrow.Session

/-!
# The canvas of a run

Each side of the canvas is the one that a run asks for, else the one of its settings. A side that is
at most zero is refused before the source is looked at. What is no number is not at most zero: it is
let through, and then it is the side of a canvas. All other canvases of a run, unless the source
sets another one, have two sides above zero, which are exactly the ones that were given.

## Main definitions

* `Settings.IsAdmitted` — a side of a canvas that is let through
* `Session.Reads` — the document that the source of a run is

## Main results

* `Settings.withCanvas_eq_ok_iff` — which canvases are let through
* `Settings.exists_withCanvas_iff_pos_iff` — where these are the ones with two sides above zero
* `Session.run_eq_ok_iff`, `Session.run_eq_error_iff` — the runs that have a layout, and those that
  are refused for their canvas
* `Session.run_canvas` — the canvas of a run
* `Session.run_canvas_notANumber` — it can be without a side above zero
-/

namespace BoxArrow

namespace Settings

/-- A side of a canvas that is let through: one above zero, or what is no number. -/
def IsAdmitted (side : Float32) : Prop := 0 < side ∨ side.isNaN = true

/-- The sides of the canvas that are asked for, and for want of them those of the settings. -/
def sides (settings : Settings) (width height : Option Float32) : Size :=
  ⟨width.getD settings.canvas.width, height.getD settings.canvas.height⟩

variable {settings settings' : Settings} {width height : Option Float32} {side : Float32}
  {e : SettingsError}

theorem isAdmitted_iff : IsAdmitted side ↔ ¬ side ≤ 0 := (Binary32.not_le_zero_iff side).symm

/-- What is above zero is let through, unless it is no number. -/
theorem pos_iff : 0 < side ↔ IsAdmitted side ∧ side.isNaN = false := by
  constructor
  · intro hpos
    refine ⟨.inl hpos, Bool.eq_false_iff.2 fun hnan => ?_⟩
    exact Binary32.not_lt_of_isNaN hnan hpos
  · rintro ⟨hpos | hnan, hnumber⟩
    · exact hpos
    · rw [hnumber] at hnan
      cases hnan

theorem withCanvas_eq : settings.withCanvas width height =
    if (settings.sides width height).width ≤ 0 ∨ (settings.sides width height).height ≤ 0 then
      .error (.invalidCanvas (settings.sides width height).width
        (settings.sides width height).height)
    else .ok ⟨settings.sides width height, settings.padding⟩ := rfl

/-- A canvas is let through if both of its sides are, and nothing but the canvas is replaced. -/
theorem withCanvas_eq_ok_iff : settings.withCanvas width height = .ok settings' ↔
    (IsAdmitted (settings.sides width height).width ∧
      IsAdmitted (settings.sides width height).height) ∧
      settings' = ⟨settings.sides width height, settings.padding⟩ := by
  rw [withCanvas_eq, isAdmitted_iff, isAdmitted_iff, ← not_or]
  split <;> rename_i hsides <;> simp [hsides, eq_comm]

/-- Otherwise it is refused as it is. -/
theorem withCanvas_eq_error_iff : settings.withCanvas width height = .error e ↔
    ¬ (IsAdmitted (settings.sides width height).width ∧
      IsAdmitted (settings.sides width height).height) ∧
      e = .invalidCanvas (settings.sides width height).width
        (settings.sides width height).height := by
  rw [withCanvas_eq, isAdmitted_iff, isAdmitted_iff, ← not_or, not_not]
  split <;> rename_i hsides <;> simp [hsides, eq_comm]

/-- To ask for two sides above zero would be the same, unless a side is no number and neither is at
most zero. -/
theorem exists_withCanvas_iff_pos_iff :
    ((∃ settings', settings.withCanvas width height = .ok settings') ↔
      0 < (settings.sides width height).width ∧ 0 < (settings.sides width height).height) ↔
    ((settings.sides width height).width.isNaN = false ∧
        (settings.sides width height).height.isNaN = false) ∨
      (settings.sides width height).width ≤ 0 ∨ (settings.sides width height).height ≤ 0 := by
  simp only [withCanvas_eq_ok_iff, exists_and_left, exists_eq, and_true]
  rw [pos_iff, pos_iff, and_and_and_comm, iff_self_and, isAdmitted_iff, isAdmitted_iff, ← not_or,
    ← or_iff_not_imp_left, or_comm]

end Settings

/-- A box at the origin with sides that are let through has exactly these sides. -/
theorem Box.ofCorner_origin_of_isAdmitted {size : Size} (hwidth : Settings.IsAdmitted size.width)
    (hheight : Settings.IsAdmitted size.height) :
    Box.ofCorner .origin size = ⟨0, 0, size.width, size.height⟩ := by
  unfold Box.ofCorner Point.origin
  rw [Binary32.zero_add (Settings.isAdmitted_iff.1 hwidth),
    Binary32.zero_add (Settings.isAdmitted_iff.1 hheight)]

namespace Session

/-- The source of a run is a document. -/
def Reads (session : Session) (document : Document) : Prop :=
  ∃ content source, session.source = some content ∧ decode content = .ok source ∧
    Document.ofSource source = .ok document

variable {session : Session} {settings : Settings} {document : Document} {layout : Layout}

open Settings (IsAdmitted)

theorem run_eq (h : session.settings = .ok settings) :
    session.run = (settings.withCanvas session.width session.height).mapError .ofSettingsError >>=
      fun settings =>
        match session.source with
        | none => .error .missingFile
        | some content => decode content >>= fun source =>
          (settings.planner.compile source).mapError .ofSyntaxError := by
  rw [run, h]
  rfl

/-- A run with settings has a layout if its canvas is let through and its source is a document. -/
theorem run_eq_ok_iff (h : session.settings = .ok settings) :
    session.run = .ok layout ↔
      (IsAdmitted (settings.sides session.width session.height).width ∧
        IsAdmitted (settings.sides session.width session.height).height) ∧
      ∃ document, session.Reads document ∧ layout =
        (Settings.planner ⟨settings.sides session.width session.height, settings.padding⟩).plan
          document := by
  rw [run_eq h, bind_eq_ok_iff]
  simp only [mapError_eq_ok_iff, Settings.withCanvas_eq_ok_iff]
  -- A run takes three steps behind its settings: the canvas, the source, and the document.
  constructor
  · rintro ⟨_, ⟨hadmitted, rfl⟩, hrest⟩
    refine ⟨hadmitted, ?_⟩
    split at hrest
    · cases hrest
    · rename_i content hcontent
      obtain ⟨source, hsource, hlayout⟩ := bind_eq_ok_iff.1 hrest
      obtain ⟨document, hdocument, rfl⟩ := map_eq_ok_iff.1 (mapError_eq_ok_iff.1 hlayout)
      exact ⟨document, ⟨content, source, hcontent, hsource, hdocument⟩, rfl⟩
  · rintro ⟨hadmitted, document, ⟨content, source, hcontent, hsource, hdocument⟩, rfl⟩
    refine ⟨_, ⟨hadmitted, rfl⟩, ?_⟩
    rw [hcontent]
    dsimp only
    rw [hsource]
    exact mapError_eq_ok_iff.2 (map_eq_ok_iff.2 ⟨document, hdocument, rfl⟩)

/-- A run with settings is refused for its canvas if and only if that is not let through. No later
failure is one of the settings. -/
theorem run_eq_error_iff (h : session.settings = .ok settings) (reason : String) :
    session.run = .error (.settings reason) ↔
      ¬ (IsAdmitted (settings.sides session.width session.height).width ∧
        IsAdmitted (settings.sides session.width session.height).height) ∧
      reason = (SettingsError.invalidCanvas (settings.sides session.width session.height).width
        (settings.sides session.width session.height).height).message := by
  rw [run_eq h]
  cases hcanvas : settings.withCanvas session.width session.height with
  | error e =>
    obtain ⟨hrefused, rfl⟩ := Settings.withCanvas_eq_error_iff.1 hcanvas
    rw [iff_true_intro hrefused, true_and]
    constructor
    · rintro ⟨⟩
      rfl
    · rintro rfl
      rfl
  | ok settings' =>
    obtain ⟨hadmitted, -⟩ := Settings.withCanvas_eq_ok_iff.1 hcanvas
    refine ⟨fun hrun => ?_, fun hrefused => absurd hadmitted hrefused.1⟩
    -- What comes behind the canvas can fail for the source alone.
    rcases bind_eq_error_iff.1 hrun with hcanvas | ⟨admitted, -, hrest⟩
    · cases hcanvas
    · split at hrest
      · cases hrest
      · rcases bind_eq_error_iff.1 hrest with hdecode | ⟨source, -, hcompile⟩
        · unfold decode at hdecode
          split at hdecode <;> cases hdecode
        · cases hresult : admitted.planner.compile source <;> rw [hresult] at hcompile <;>
            cases hcompile

/-- The canvas of a document that sets none is that of the settings. -/
theorem canvas_plan_of_isAdmitted (settings : Settings) (document : Document)
    (hwidth : IsAdmitted settings.canvas.width) (hheight : IsAdmitted settings.canvas.height)
    (hnone : document.states.get? Planner.canvasBlock = none) :
    (settings.planner.plan document).canvas =
      ⟨0, 0, settings.canvas.width, settings.canvas.height⟩ := by
  rw [Planner.canvas_plan, Planner.canvasOf, hnone]
  exact Box.ofCorner_origin_of_isAdmitted hwidth hheight

theorem width_of_canvas_eq {width height : Float32} (h : layout.canvas = ⟨0, 0, width, height⟩) :
    layout.canvas.width = width := by
  rw [h, Box.width, Binary32.sub_zero]

theorem height_of_canvas_eq {width height : Float32} (h : layout.canvas = ⟨0, 0, width, height⟩) :
    layout.canvas.height = height := by
  rw [h, Box.height, Binary32.sub_zero]

/-- A canvas is let through if and only if each of its sides is above zero or no number. Then
nothing but the canvas is replaced, and otherwise a run is refused, whatever its source is. This is
to let through two sides above zero and nothing else, unless a side is no number and neither is at
most zero. The layout of a run whose source sets no canvas has exactly the sides that were let
through. -/
theorem run_canvas (settings : Settings) (width height : Option Float32) :
    let sides := settings.sides width height
    (∀ settings', settings.withCanvas width height = .ok settings' ↔
      (IsAdmitted sides.width ∧ IsAdmitted sides.height) ∧
        settings' = ⟨sides, settings.padding⟩) ∧
    (∀ e, settings.withCanvas width height = .error e ↔
      ¬ (IsAdmitted sides.width ∧ IsAdmitted sides.height) ∧
        e = .invalidCanvas sides.width sides.height) ∧
    (((∃ settings', settings.withCanvas width height = .ok settings') ↔
        0 < sides.width ∧ 0 < sides.height) ↔
      (sides.width.isNaN = false ∧ sides.height.isNaN = false) ∨
        sides.width ≤ 0 ∨ sides.height ≤ 0) ∧
    ∀ session : Session, session.settings = .ok settings → session.width = width →
      session.height = height →
        (∀ reason, session.run = .error (.settings reason) ↔
          ¬ (IsAdmitted sides.width ∧ IsAdmitted sides.height) ∧
            reason = (SettingsError.invalidCanvas sides.width sides.height).message) ∧
        ∀ layout, session.run = .ok layout →
          (IsAdmitted sides.width ∧ IsAdmitted sides.height) ∧
          ∃ document, session.Reads document ∧
            (document.states.get? Planner.canvasBlock = none →
              layout.canvas = ⟨0, 0, sides.width, sides.height⟩ ∧
                layout.canvas.width = sides.width ∧ layout.canvas.height = sides.height) := by
  refine ⟨fun _ => Settings.withCanvas_eq_ok_iff, fun _ => Settings.withCanvas_eq_error_iff,
    Settings.exists_withCanvas_iff_pos_iff, ?_⟩
  rintro session hsettings rfl rfl
  refine ⟨run_eq_error_iff hsettings, fun layout hrun => ?_⟩
  obtain ⟨hadmitted, document, hreads, rfl⟩ := (run_eq_ok_iff hsettings).1 hrun
  refine ⟨hadmitted, document, hreads, fun hnone => ?_⟩
  have hcanvas := canvas_plan_of_isAdmitted
    ⟨settings.sides session.width session.height, settings.padding⟩ document hadmitted.1
    hadmitted.2 hnone
  exact ⟨hcanvas, width_of_canvas_eq hcanvas, height_of_canvas_eq hcanvas⟩

/-- A width that is no number is let through, and then it is the width of the layout. -/
theorem run_canvas_notANumber :
    ∃ settings layout, Settings.standard.withCanvas (some (0 / 0)) none = .ok settings ∧
      ¬ 0 < settings.canvas.width ∧
      run ⟨none, none, none, some (0 / 0), none, some "a".toUTF8⟩ = .ok layout ∧
      ¬ 0 < layout.canvas.width := by
  have hnan : (0 / 0 : Float32).isNaN = true := by decide +kernel
  have hwidth : IsAdmitted (0 / 0) := .inr hnan
  have hheight : IsAdmitted 400 := .inl (by decide +kernel)
  let document := Document.ofStatements [.declaration ⟨"a", none, none, ⟨0, 1⟩⟩ none]
  have hread : Statement.ofTokens (Token.scan "a") =
      .ok [.declaration ⟨"a", none, none, ⟨0, 1⟩⟩ none] := by
    decide +kernel
  have htext : String.fromUTF8? "a".toUTF8 = some "a" := by decide +kernel
  have hreads : Reads ⟨none, none, none, some (0 / 0), none, some "a".toUTF8⟩ document := by
    refine ⟨_, "a", rfl, ?_, Document.ofSource_eq_ok_iff.2 ⟨_, hread, rfl⟩⟩
    rw [decode, htext]
  have hsettings : settings ⟨none, none, none, some (0 / 0), none, some "a".toUTF8⟩ =
      .ok .standard := rfl
  have hrun := (run_eq_ok_iff hsettings).2 ⟨⟨hwidth, hheight⟩, document, hreads, rfl⟩
  have hcanvas := canvas_plan_of_isAdmitted ⟨⟨0 / 0, 400⟩, 24⟩ document hwidth hheight (by decide)
  refine ⟨_, _, Settings.withCanvas_eq_ok_iff.2 ⟨⟨hwidth, hheight⟩, rfl⟩,
    Binary32.not_lt_of_isNaN hnan, hrun, ?_⟩
  -- The width is read off the canvas, so that the layout is not worked out.
  have hlayout : ¬ 0 < ((Settings.planner ⟨⟨0 / 0, 400⟩, 24⟩).plan document).canvas.width := by
    rw [width_of_canvas_eq hcanvas]
    exact Binary32.not_lt_of_isNaN hnan
  exact hlayout

end Session

end BoxArrow
