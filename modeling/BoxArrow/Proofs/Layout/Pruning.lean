import BoxArrow.Proofs.Layout.Connections

/-!
# Documents without what layout leaves out

A block that cannot be read, a connection with an end that is not declared, and a style that cannot
be read are left out of a layout. They leave no trace in it besides their warnings: the layout is
the same if they had not been written at all.

## Main definitions

* `Declaration.prune` — declarations without the blocks that cannot be applied to their components
* `Document.pruned` — a document without what layout leaves out

## Main results

* `Figure.ofDeclaration_pruned` — a block that cannot be applied does not show in the figure
* `Planner.plan_pruned` — what is left out shows in the warnings of a layout alone
-/

namespace BoxArrow

namespace Figure

variable (figure : Figure) (placed : Bool) (catalog : Catalog) (d : Declaration)

/-- A block cannot be applied to the figure. -/
def refuses (block : StateDeclaration) : Bool := !(figure.amend placed block).isOk

/-- A block that cannot be applied does not show in the figure. -/
theorem tryAmend_filter (block : Option StateDeclaration) :
    figure.tryAmend placed (block.filter fun block => !figure.refuses placed block) =
      ((figure.tryAmend placed block).1, []) := by
  cases block with
  | none => rfl
  | some block =>
    unfold refuses
    cases hamend : figure.amend placed block with
    | ok amended =>
      rw [Option.filter_some_pos (by rw [hamend]; rfl), tryAmend]
      simp only [hamend]
    | error e =>
      rw [Option.filter_some_neg (by rw [hamend]; simp [Except.isOk, Except.toBool]), tryAmend,
        tryAmend]
      simp only [hamend]

/-- The block of the identifier cannot be applied to the component. -/
def refusesOwn : Bool := d.ownState.any ((initial catalog none d).refuses true)

/-- The block of the state tag cannot be applied to the component. -/
def refusesTag : Bool :=
  (otherState d).any
    (((initial catalog none d).tryAmend true d.ownState).1.refuses (!d.isContainer))

end Figure

namespace Declaration

/-- The block of a name is not one that cannot be applied to the component. -/
def keeps (catalog : Catalog) (d : Declaration) (name : String) : Bool :=
  !(name = d.name && Figure.refusesOwn catalog d) &&
    !(d.stateTag = some name && Figure.refusesTag catalog d)

/-- The component without the blocks that cannot be applied to it, and with other members. -/
def pruned (catalog : Catalog) (children : List Declaration) (d : Declaration) : Declaration :=
  { d with states := d.states.filter (d.keeps catalog), children := children }

/-- The declarations, and all that is inside them, without the blocks that cannot be applied to
their components. -/
def prune (catalog : Catalog) : List Declaration → List Declaration
  | [] => []
  | d@{ children, .. } :: declarations =>
    d.pruned catalog (prune catalog children) :: prune catalog declarations

variable (catalog : Catalog) (d : Declaration)

theorem prune_cons (declarations : List Declaration) :
    prune catalog (d :: declarations) =
      d.pruned catalog (prune catalog d.children) :: prune catalog declarations := by
  cases d
  rw [prune]

theorem keeps_name : d.keeps catalog d.name = !Figure.refusesOwn catalog d := by
  -- A tag that is the identifier itself names no second block.
  have htag : d.stateTag = some d.name → Figure.refusesTag catalog d = false := fun h => by
    rw [Figure.refusesTag, Figure.otherState, if_pos h]
    rfl
  unfold keeps
  by_cases h : d.stateTag = some d.name
  · simp [htag h]
  · simp [h]

theorem keeps_stateTag {tag : String} (htag : d.stateTag = some tag) (hname : tag ≠ d.name) :
    d.keeps catalog tag = !Figure.refusesTag catalog d := by
  simp [keeps, htag, hname]

theorem ownState_pruned (children : List Declaration) :
    (d.pruned catalog children).ownState =
      d.ownState.filter fun block => !(Figure.initial catalog none d).refuses true block := by
  change (d.states.filter (d.keeps catalog)).get? d.name = _
  rw [OrderedMap.get?_filter, keeps_name, Figure.refusesOwn, ownState]
  cases d.states.get? d.name <;> simp [Option.filter]

theorem otherState_pruned (children : List Declaration) :
    Figure.otherState (d.pruned catalog children) =
      (Figure.otherState d).filter fun block =>
        !((Figure.initial catalog none d).tryAmend true d.ownState).1.refuses
          (!d.isContainer) block := by
  have hstates : Figure.otherState (d.pruned catalog children) =
      if d.stateTag = some d.name then none
      else d.stateTag.bind (d.states.filter (d.keeps catalog)).get? := rfl
  rw [hstates]
  by_cases hname : d.stateTag = some d.name
  · rw [if_pos hname, Figure.otherState, if_pos hname]
    rfl
  · have hother : Figure.otherState d = d.stateTag.bind d.states.get? := if_neg hname
    rw [if_neg hname]
    -- The tag is not the name, so its block is kept or left out for itself.
    cases htag : d.stateTag with
    | none =>
      rw [hother, htag]
      rfl
    | some tag =>
      have hne : tag ≠ d.name := fun e => hname (htag.trans (congrArg some e))
      rw [Option.bind_some, OrderedMap.get?_filter, keeps_stateTag catalog d htag hne,
        Figure.refusesTag, hother, htag, Option.bind_some]
      cases d.states.get? tag <;> simp [Option.filter]

end Declaration

/-- A block that cannot be applied does not show in the figure. -/
theorem Figure.ofDeclaration_pruned (catalog : Catalog) (parent : Option Nat) (d : Declaration)
    (children : List Declaration) :
    ofDeclaration catalog parent (d.pruned catalog children) =
      ((ofDeclaration catalog parent d).1, []) := by
  have hinitial (parent : Option Nat) :
      initial catalog parent (d.pruned catalog children) = initial catalog parent d := rfl
  have halone : ofDeclaration catalog none (d.pruned catalog children) =
      ((ofDeclaration catalog none d).1, []) := by
    unfold ofDeclaration
    rw [hinitial, Declaration.ownState_pruned, Declaration.otherState_pruned, tryAmend_filter]
    have hcontainer : (d.pruned catalog children).isContainer = d.isContainer := rfl
    dsimp only
    rw [hcontainer, tryAmend_filter, List.append_nil]
  rw [ofDeclaration_eq, halone, hinitial, ofDeclaration_eq catalog parent d]

/-- Blocks that cannot be applied do not show in a forest. -/
theorem Forest.place_prune (catalog : Catalog) (declarations : List Declaration) :
    ∀ (parent : Option Nat) (result : Forest × List Warning) (warnings : List Warning),
      place catalog parent (Declaration.prune catalog declarations) (result.1, warnings) =
        ((place catalog parent declarations result).1, warnings) := by
  induction declarations using Declaration.forest_induction with
  | nil =>
    intro parent result warnings
    rw [Declaration.prune, place, place]
  | cons d declarations ihchildren ih =>
    intro parent result warnings
    have hadd : add catalog parent (d.pruned catalog (Declaration.prune catalog d.children))
        (result.1, warnings) = ((add catalog parent d result).1, warnings) := by
      unfold add
      rw [Figure.ofDeclaration_pruned, List.append_nil]
    rw [Declaration.prune_cons, place_cons, place_cons, hadd]
    change place catalog parent _ (place catalog _ (Declaration.prune catalog d.children) _) = _
    rw [ihchildren, ih]

namespace Planner

/-- The block of the canvas cannot be read. -/
def refusesCanvas (document : Document) : Bool :=
  (document.states.get? canvasBlock).any fun block =>
    !(CanvasSpec.schema.read block.content .empty).isOk

end Planner

/-- The connection without a block that cannot be read. -/
def Connection.pruned (c : Connection) : Connection :=
  if (Text.trim c.style.toList).isEmpty || (Pen.ofBlock c.style).isOk then c
  else { c with style := "" }

/-- The document without what layout leaves out: the block of the canvas and the blocks of
components if they cannot be applied, connections with an end that is not declared, and the styles
that cannot be read. -/
def Document.pruned (catalog : Catalog) (document : Document) : Document where
  declarations := Declaration.prune catalog document.declarations
  states := document.states.filter fun name =>
    !(name = Planner.canvasBlock && Planner.refusesCanvas document)
  connections := (document.connections.filter fun c =>
    document.Declares c.source ∧ document.Declares c.target).map Connection.pruned

namespace Planner

variable (planner : Planner) (document : Document) {places : OrderedMap Box}

theorem canvasOf_pruned (catalog : Catalog) :
    planner.canvasOf (document.pruned catalog) = ((planner.canvasOf document).1, []) := by
  have hblock : (document.pruned catalog).states.get? canvasBlock =
      if refusesCanvas document then none else document.states.get? canvasBlock := by
    change (document.states.filter _).get? _ = _
    rw [OrderedMap.get?_filter]
    cases refusesCanvas document <;> simp
  unfold canvasOf
  rw [hblock, refusesCanvas]
  cases document.states.get? canvasBlock with
  | none => rfl
  | some block =>
    rw [Option.any_some]
    cases hread : CanvasSpec.schema.read block.content .empty with
    | ok size => simp [Except.isOk, Except.toBool, hread]
    | error e => simp [Except.isOk, Except.toBool, hread]

theorem placed_pruned :
    planner.placed (document.pruned planner.catalog) = ((planner.placed document).1, []) :=
  Forest.place_prune planner.catalog document.declarations none ([], []) []

theorem settled_pruned :
    planner.settled (document.pruned planner.catalog) = planner.settled document := by
  rw [settled, placed_pruned]
  rfl

theorem places_pruned :
    (planner.plan (document.pruned planner.catalog)).places = (planner.plan document).places := by
  rw [places_plan, places_plan, settled_pruned, placed_pruned]

theorem penOf_pruned (c : Connection) : penOf c.pruned = ((penOf c).1, []) := by
  unfold Connection.pruned
  cases hblank : (Text.trim c.style.toList).isEmpty with
  | true => rw [Bool.true_or, if_pos rfl, penOf, if_pos hblank]
  | false =>
    have hwritten : ¬ (Text.trim c.style.toList).isEmpty = true := by
      rw [hblank]
      decide
    rw [Bool.false_or]
    cases hread : Pen.ofBlock c.style with
    | ok pen =>
      have hpen : penOf c = (pen, []) := by rw [penOf, if_neg hwritten, hread]
      simp only [Except.isOk, Except.toBool, if_true, hpen]
    | error e =>
      have hpen : penOf c = (.plain, [.invalidStyle c e]) := by
        rw [penOf, if_neg hwritten, hread]
      rw [hpen]
      simp only [Except.isOk, Except.toBool]
      rfl

theorem isRouted_pruned (c : Connection) : isRouted places c.pruned = isRouted places c := by
  unfold Connection.pruned
  split <;> rfl

/-- A style that cannot be read does not show in the arrow. -/
theorem arrowFor_pruned (k : Nat) (c : Connection) :
    planner.arrowFor places k c.pruned = planner.arrowFor places k c := by
  have hpen : (penOf c.pruned).1 = (penOf c).1 := by rw [penOf_pruned]
  unfold arrowFor
  rw [hpen]
  unfold Connection.pruned
  split <;> rfl

theorem remarksOn_pruned (c : Connection) (hrouted : isRouted places c = true) :
    remarksOn places c.pruned = [] := by
  rw [remarksOn, isRouted_pruned, if_pos hrouted, penOf_pruned]

/-- The connections that are kept are those that are drawn. -/
theorem connections_pruned (catalog : Catalog) :
    (document.pruned catalog).connections =
      (document.connections.filter (isRouted (planner.plan document).places)).map
        Connection.pruned :=
  congrArg (List.map Connection.pruned) (filter_declares planner document document.connections)

theorem arrows_pruned :
    (planner.plan (document.pruned planner.catalog)).arrows = (planner.plan document).arrows := by
  rw [arrows_plan, arrows_plan, places_pruned, connections_pruned planner, List.filter_map]
  have hall : (document.connections.filter (isRouted (planner.plan document).places)).filter
      (isRouted (planner.plan document).places ∘ Connection.pruned) =
      document.connections.filter (isRouted (planner.plan document).places) := by
    rw [List.filter_eq_self]
    intro c hc
    rw [Function.comp_apply, isRouted_pruned]
    exact (List.mem_filter.1 hc).2
  rw [hall]
  refine List.ext_getElem? fun k => ?_
  rw [List.getElem?_mapIdx, List.getElem?_mapIdx, List.getElem?_map, Option.map_map]
  exact congrArg (Option.map · _) (funext (arrowFor_pruned planner k))

/-- The warnings that stay are those about references. -/
theorem warnings_pruned :
    (planner.plan (document.pruned planner.catalog)).warnings =
      (planner.plan document).warnings.filter fun w =>
        w.code ≠ .invalidBlock ∧ w.code ≠ .unknownEndpoint := by
  -- The warnings come from the canvas, the blocks, the references and the connections. Those of
  -- the references stay, and the others are all of the two codes.
  have hdropped : ∀ ws : List Warning,
      (∀ w ∈ ws, w.code = .invalidBlock ∨ w.code = .unknownEndpoint) →
        ws.filter (fun w => w.code ≠ .invalidBlock ∧ w.code ≠ .unknownEndpoint) = [] := by
    intro ws hws
    rw [List.filter_eq_nil_iff]
    intro w hw
    rcases hws w hw with h | h <;> simp [h]
  have hties : (planner.settled document).2.filter
      (fun w => w.code ≠ .invalidBlock ∧ w.code ≠ .unknownEndpoint) =
        (planner.settled document).2 := by
    rw [List.filter_eq_self]
    intro w hw
    rcases isOfTie_of_mem_settled hw with h | h | h <;> simp [h]
  have hremarks : ∀ w ∈ document.connections.flatMap (remarksOn (planner.plan document).places),
      w.code = .invalidBlock ∨ w.code = .unknownEndpoint := by
    intro w hw
    obtain ⟨c, -, hw⟩ := List.mem_flatMap.1 hw
    exact code_of_mem_remarksOn hw
  have hroutes : (document.pruned planner.catalog).connections.flatMap
      (remarksOn (planner.plan document).places) = [] := by
    rw [connections_pruned planner, List.flatMap_map, List.flatMap_eq_nil_iff]
    exact fun c hc => remarksOn_pruned c (List.mem_filter.1 hc).2
  rw [warnings_plan, warnings_plan, places_pruned, canvasOf_pruned, placed_pruned,
    settled_pruned, hroutes, List.filter_append, List.filter_append, List.filter_append, hties,
    hdropped _ fun w hw => .inl (code_of_mem_canvasOf hw),
    hdropped _ fun w hw => .inl (code_of_mem_placed hw),
    hdropped _ hremarks]

/-- What a layout leaves out shows in its warnings alone. -/
theorem plan_pruned :
    planner.plan (document.pruned planner.catalog) =
      { planner.plan document with
        warnings := (planner.plan document).warnings.filter fun w =>
          w.code ≠ .invalidBlock ∧ w.code ≠ .unknownEndpoint } := by
  refine Layout.ext ?canvas ?components ?places ?arrows ?warnings
  case canvas => rw [canvas_plan, canvasOf_pruned, canvas_plan]
  case components => rw [components_plan, settled_pruned, components_plan]
  case places => rw [places_pruned]
  case arrows => rw [arrows_pruned]
  case warnings => rw [warnings_pruned]

end Planner

end BoxArrow
