import BoxArrow.Layout.Planner
import BoxArrow.Proofs.Layout.Figure
import BoxArrow.Proofs.Relocation.Statement

/-!
# Layouts of moved statements

Layout passes the spans of blocks and connections on to its warnings, and does not look at them.

## Main definitions

* `Figure.relocate`, `Warning.relocate`, `Finding.relocate` — with all spans moved

## Main results

* `Warning.finding_relocate` — only the label of a finding shows the span
* `Figure.tryAmend_relocate` — a block in another place has the same effect
* `Tie.ofReference_relocate` — a reference in another place asks for the same tie
* `Planner.foldl_connect_relocate` — connections in other places are routed alike
-/

namespace BoxArrow

variable (f : Span → Span)

/-- The reference with its span moved. -/
def Reference.relocate (reference : Reference) : Reference :=
  { reference with block := f reference.block }

/-- The figure with the spans of its references moved. -/
def Figure.relocate (figure : Figure) : Figure :=
  { figure with
    referenceX := figure.referenceX.map (.relocate f)
    referenceY := figure.referenceY.map (.relocate f) }

/-- The warning with its span moved. -/
def Warning.relocate : Warning → Warning
  | invalidBlock block error => invalidBlock (block.relocate f) error
  | invalidStyle connection error => invalidStyle (connection.relocate f) error
  | malformedReference reference block => malformedReference reference (f block)
  | unsupportedKeyword axis keyword block => unsupportedKeyword axis keyword (f block)
  | unknownTarget target block => unknownTarget target (f block)
  | cyclicReference axis id block => cyclicReference axis id (f block)
  | missingEndpoints connection missing => missingEndpoints (connection.relocate f) missing

/-- The finding with the spans of its labels moved. -/
def Finding.relocate (finding : Finding) : Finding :=
  { finding with labels := finding.labels.map fun label => { label with span := f label.span } }

/-- The figure without the places of its references. -/
abbrev Figure.bare : Figure → Figure := relocate Span.erase

/-- The warning without its place. -/
abbrev Warning.bare : Warning → Warning := relocate Span.erase

/-- The finding without the places of its labels. -/
abbrev Finding.bare : Finding → Finding := relocate Span.erase

theorem Warning.relocate_id (w : Warning) : w.relocate id = w := by
  cases w <;> rfl

/-- Only the label of a finding shows the span of the warning. -/
theorem Warning.finding_relocate (w : Warning) :
    (w.relocate f).finding = w.finding.relocate f := by
  cases w with
  | unsupportedKeyword axis keyword block => cases axis <;> rfl
  | _ => rfl

/-- The findings of warnings without their places. -/
theorem Warning.map_finding_bare (warnings : List Warning) :
    (warnings.map fun w => w.finding.bare) = (warnings.map bare).map finding := by
  rw [List.map_map]
  exact List.map_congr_left fun w _ => (w.finding_relocate Span.erase).symm

namespace Figure

theorem reference_relocate (figure : Figure) (axis : Axis) :
    (figure.relocate f).reference axis = (figure.reference axis).map (.relocate f) := by
  cases axis <;> rfl

theorem setSize_relocate (figure : Figure) (axis : Axis) (value : Option Float32) :
    (figure.relocate f).setSize axis value = (figure.setSize axis value).relocate f := by
  cases value <;> rfl

theorem setPosition_relocate (figure : Figure) (axis : Axis) (block : Span)
    (position : Option Position) :
    (figure.relocate f).setPosition axis (f block) position =
      (figure.setPosition axis block position).relocate f := by
  cases axis <;> rcases position with _ | _ | _ <;> rfl

theorem fit_relocate (figure : Figure) (spec : BoxSpec) (block : Span) :
    (figure.relocate f).fit spec (f block) = (figure.fit spec block).relocate f := by
  unfold fit
  rw [setSize_relocate, setSize_relocate, setPosition_relocate, setPosition_relocate]

theorem amend_relocate (figure : Figure) (placed : Bool) (block : StateDeclaration) :
    (figure.relocate f).amend placed (block.relocate f) =
      (figure.amend placed block).map (.relocate f) := by
  rw [amend_eq, amend_eq]
  change (readSpec placed block.content).bind _ = _
  cases readSpec placed block.content with
  | error e => rfl
  | ok spec =>
    change (figure.record.amend block.content).map _ =
      Except.map _ ((figure.record.amend block.content).map _)
    cases figure.record.amend block.content with
    | error e => rfl
    | ok record =>
      exact congrArg Except.ok (fit_relocate f { figure with record := record } spec block.span)

/-- A block in another place has the same effect. -/
theorem tryAmend_relocate (figure : Figure) (placed : Bool) (block : Option StateDeclaration) :
    (figure.relocate f).tryAmend placed (block.map (.relocate f)) =
      ((figure.tryAmend placed block).1.relocate f,
        (figure.tryAmend placed block).2.map (.relocate f)) := by
  cases block with
  | none => rfl
  | some block =>
    have hamend := amend_relocate f figure placed block
    simp only [tryAmend, Option.map_some, hamend]
    cases figure.amend placed block <;> rfl

/-- The figure of a declaration, its blocks being in other places. -/
theorem ofDeclaration_relocate (catalog : Catalog) (parent : Option Nat) (d : Declaration) :
    ((ofDeclaration catalog parent d).1.relocate f,
        (ofDeclaration catalog parent d).2.map (Warning.relocate f)) =
      let own := (initial catalog parent d).tryAmend true (d.ownState.map (.relocate f))
      let tagged := own.1.tryAmend (!d.isContainer) ((otherState d).map (.relocate f))
      (tagged.1, own.2 ++ tagged.2) := by
  have hinitial : (initial catalog parent d).relocate f = initial catalog parent d := rfl
  have hown := tryAmend_relocate f (initial catalog parent d) true d.ownState
  rw [hinitial] at hown
  dsimp only
  rw [hown, tryAmend_relocate]
  exact Prod.ext rfl List.map_append

/-- Declarations whose blocks are the same up to places have the same figures. -/
theorem ofDeclaration_bare_congr {catalog : Catalog} {d d' : Declaration}
    (hinitial : initial catalog none d = initial catalog none d')
    (hcontainer : d.isContainer = d'.isContainer)
    (hown : d.ownState.map StateDeclaration.bare = d'.ownState.map StateDeclaration.bare)
    (hother : (otherState d).map StateDeclaration.bare =
      (otherState d').map StateDeclaration.bare) :
    (ofDeclaration catalog none d).1.bare = (ofDeclaration catalog none d').1.bare ∧
      (ofDeclaration catalog none d).2.map Warning.bare =
        (ofDeclaration catalog none d').2.map Warning.bare := by
  rw [← Prod.mk.injEq, ofDeclaration_relocate, ofDeclaration_relocate, hinitial, hcontainer, hown,
    hother]

end Figure

/-- A reference in another place asks for the same tie. -/
theorem Tie.ofReference_relocate (axis : Axis) (index : OrderedMap Nat) (reference : Reference) :
    Tie.ofReference axis index (reference.relocate f) =
      (Tie.ofReference axis index reference).mapError (.relocate f) := by
  have htext : (reference.relocate f).text = reference.text := rfl
  unfold Tie.ofReference
  rw [htext]
  cases Tie.splitLastDot? reference.text.toList with
  | none => rfl
  | some pair =>
    obtain ⟨_ | ⟨c, target⟩, keyword⟩ := pair
    · rfl
    · dsimp only
      cases Alignment.ofKeyword axis (String.ofList keyword) with
      | none => rfl
      | some alignment => cases index.get? (String.ofList (c :: target)) <;> rfl

namespace Planner

variable (planner : Planner)

theorem penOf_relocate (c : Connection) :
    penOf (c.relocate f) = ((penOf c).1, (penOf c).2.map (.relocate f)) := by
  have hstyle : (c.relocate f).style = c.style := rfl
  unfold penOf
  rw [hstyle]
  split
  · rfl
  · cases Pen.ofBlock c.style <;> rfl

theorem connect_relocate (places : OrderedMap Box) (result : List Arrow × List Warning)
    (c : Connection) :
    planner.connect places (result.1, result.2.map (.relocate f)) (c.relocate f) =
      ((planner.connect places result c).1,
        (planner.connect places result c).2.map (.relocate f)) := by
  have hsource : (c.relocate f).source = c.source := rfl
  have htarget : (c.relocate f).target = c.target := rfl
  unfold connect
  rw [hsource, htarget]
  -- The span only gets into the warning about a missing end.
  have hmissing : ∀ missing, result.2.map (Warning.relocate f) ++
      [Warning.missingEndpoints (c.relocate f) missing] =
        (result.2 ++ [Warning.missingEndpoints c missing]).map (.relocate f) := by
    intro missing
    rw [List.map_append]
    rfl
  cases places.get? c.source with
  | none => exact Prod.ext rfl (hmissing _)
  | some source =>
    cases places.get? c.target with
    | none => exact Prod.ext rfl (hmissing _)
    | some target =>
      dsimp only
      rw [penOf_relocate, List.map_append]
      rfl

/-- Connections in other places are routed alike. -/
theorem foldl_connect_relocate (places : OrderedMap Box) (connections : List Connection)
    (result : List Arrow × List Warning) :
    (connections.map (.relocate f)).foldl (planner.connect places)
        (result.1, result.2.map (.relocate f)) =
      ((connections.foldl (planner.connect places) result).1,
        (connections.foldl (planner.connect places) result).2.map (.relocate f)) := by
  induction connections generalizing result with
  | nil => rfl
  | cons c connections ih =>
    rw [List.map_cons, List.foldl_cons, List.foldl_cons, connect_relocate, ih]

/-- A connection is routed alike if its ends have the same places. -/
theorem connect_congr {places places' : OrderedMap Box} {c : Connection}
    (hsource : places.get? c.source = places'.get? c.source)
    (htarget : places.get? c.target = places'.get? c.target)
    (result : List Arrow × List Warning) :
    planner.connect places result c = planner.connect places' result c := by
  have hmissing : missingEnds places c = missingEnds places' c := by
    unfold missingEnds OrderedMap.contains
    split <;> simp only [List.filter_cons, List.filter_nil, hsource, htarget]
  unfold connect
  rw [hsource, htarget, hmissing]

end Planner

end BoxArrow
