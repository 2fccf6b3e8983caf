import BoxArrow.Layout.Figure

/-!
# Blocks and the frame of a figure

Blocks change the box, the display properties and the references of a figure, and look at nothing
else. Its identifier, its type and its place in the forest are those of the declaration.

## Main definitions

* `Figure.reframe` — the figure with the identifier, type and place of another one

## Main results

* `Figure.tryAmend_reframe` — a block does not look at the frame of a figure
* `Figure.reframe_ofDeclaration` — the container of a declaration only shows in the frame of its
  figure
-/

namespace BoxArrow.Figure

/-- The figure with the identifier, type, depth, container and members of another one. -/
def reframe (figure frame : Figure) : Figure :=
  { figure with
    id := frame.id
    typeTag := frame.typeTag
    parent := frame.parent
    children := frame.children
    depth := frame.depth }

variable (figure frame : Figure)

theorem setSize_reframe (axis : Axis) (value : Option Float32) :
    (figure.reframe frame).setSize axis value = (figure.setSize axis value).reframe frame := by
  cases value <;> rfl

theorem setPosition_reframe (axis : Axis) (block : Span) (position : Option Position) :
    (figure.reframe frame).setPosition axis block position =
      (figure.setPosition axis block position).reframe frame := by
  cases axis <;> rcases position with _ | _ | _ <;> rfl

theorem fit_reframe (spec : BoxSpec) (block : Span) :
    (figure.reframe frame).fit spec block = (figure.fit spec block).reframe frame := by
  unfold fit
  rw [setSize_reframe, setSize_reframe, setPosition_reframe, setPosition_reframe]

/-- What a block says about position and size, if it has a say in them. -/
def readSpec (placed : Bool) (content : String) : Except ValueError BoxSpec :=
  if placed then BoxSpec.schema.read content .empty else .ok .empty

/-- A block is read as a whole before the figure is changed. -/
theorem amend_eq (placed : Bool) (block : StateDeclaration) :
    figure.amend placed block =
      (readSpec placed block.content).bind fun spec =>
        (figure.record.amend block.content).map fun record =>
          { figure with record := record }.fit spec block.span := by
  unfold amend readSpec
  cases placed with
  | false => cases hrecord : figure.record.amend block.content <;> rfl
  | true =>
    cases hspec : BoxSpec.schema.read block.content .empty with
    | error e => rfl
    | ok spec => cases hrecord : figure.record.amend block.content <;> rfl

theorem amend_reframe (placed : Bool) (block : StateDeclaration) :
    (figure.reframe frame).amend placed block =
      (figure.amend placed block).map (·.reframe frame) := by
  rw [amend_eq, amend_eq]
  cases readSpec placed block.content with
  | error e => rfl
  | ok spec =>
    change (figure.record.amend block.content).map _ =
      Except.map _ ((figure.record.amend block.content).map _)
    cases figure.record.amend block.content with
    | error e => rfl
    | ok record =>
      exact congrArg Except.ok (fit_reframe { figure with record := record } frame spec block.span)

theorem tryAmend_reframe (placed : Bool) (block : Option StateDeclaration) :
    (figure.reframe frame).tryAmend placed block =
      ((figure.tryAmend placed block).1.reframe frame, (figure.tryAmend placed block).2) := by
  cases block with
  | none => rfl
  | some block =>
    unfold tryAmend
    dsimp only
    rw [amend_reframe]
    cases figure.amend placed block <;> rfl

/-- The container of a declaration only shows in the frame of its figure. -/
theorem ofDeclaration_eq (catalog : Catalog) (parent : Option Nat) (d : Declaration) :
    ofDeclaration catalog parent d =
      ((ofDeclaration catalog none d).1.reframe (initial catalog parent d),
        (ofDeclaration catalog none d).2) := by
  have hinitial : initial catalog parent d =
      (initial catalog none d).reframe (initial catalog parent d) := rfl
  unfold ofDeclaration
  dsimp only
  rw [hinitial, tryAmend_reframe, tryAmend_reframe]
  rfl

/-- The identifier, type and place of a declaration are those of its figure. -/
theorem reframe_ofDeclaration (catalog : Catalog) (parent : Option Nat) (d : Declaration) :
    (ofDeclaration catalog parent d).1.reframe (initial catalog parent d) =
      (ofDeclaration catalog parent d).1 := by
  rw [ofDeclaration_eq]
  rfl

theorem parent_ofDeclaration (catalog : Catalog) (parent : Option Nat) (d : Declaration) :
    (ofDeclaration catalog parent d).1.parent = parent := by
  rw [← reframe_ofDeclaration]
  rfl

theorem children_ofDeclaration (catalog : Catalog) (parent : Option Nat) (d : Declaration) :
    (ofDeclaration catalog parent d).1.children = [] := by
  rw [← reframe_ofDeclaration]
  rfl

theorem id_ofDeclaration (catalog : Catalog) (parent : Option Nat) (d : Declaration) :
    (ofDeclaration catalog parent d).1.id = d.name := by
  rw [← reframe_ofDeclaration]
  rfl

end BoxArrow.Figure
