import BoxArrow.Proofs.Layout.Plan

/-!
# What becomes of the connections

Connections are routed one after the other. Each is drawn as an arrow, or left out with a warning,
and in either case its turn does not depend on what became of the others, the number in its marker
aside, which counts the arrows before it.

## Main definitions

* `Planner.isRouted`, `Planner.arrowFor`, `Planner.remarksOn` — one connection between given places
* `Document.Fate` — what becomes of a connection of a document, and what is found about it

## Main results

* `Planner.foldl_connect_eq` — the arrows and the warnings of all connections, one by one
* `Planner.plan_connections` — the connections of a layout are accounted for one by one
-/

namespace BoxArrow

namespace Planner

/-- Whether both ends of a connection have places. -/
def isRouted (places : OrderedMap Box) (c : Connection) : Bool :=
  places.contains c.source && places.contains c.target

/-- The arrow for a connection with `k` arrows before it. -/
def arrowFor (planner : Planner) (places : OrderedMap Box) (k : Nat) (c : Connection) : Arrow where
  source := c.source
  sourceAnchor := c.sourceAnchor
  target := c.target
  targetAnchor := c.targetAnchor
  route := Route.between (c.sourceAnchor.placeOn ((places.get? c.source).getD default))
    c.sourceAnchor (c.targetAnchor.placeOn ((places.get? c.target).getD default)) c.targetAnchor
    planner.padding
  pen := (penOf c).1
  marker := "arrow-" ++ toString (k + 1)

/-- The warnings about a connection. -/
def remarksOn (places : OrderedMap Box) (c : Connection) : List Warning :=
  if isRouted places c then (penOf c).2 else [.missingEndpoints c (missingEnds places c)]

variable (planner : Planner) (places : OrderedMap Box)

/-- One connection adds an arrow or none, whatever the warnings before it are. -/
theorem connect_eq (result : List Arrow × List Warning) (c : Connection) :
    planner.connect places result c =
      (result.1 ++
          if isRouted places c then [planner.arrowFor places result.1.length c] else [],
        result.2 ++ remarksOn places c) := by
  unfold connect remarksOn isRouted arrowFor OrderedMap.contains
  cases places.get? c.source with
  | none => simp
  | some source => cases places.get? c.target <;> simp

/-- The arrows are those of the routed connections, numbered from the arrows before them, and the
warnings are those of each connection, in order. -/
theorem foldl_connect_eq (cs : List Connection) :
    ∀ result : List Arrow × List Warning, cs.foldl (planner.connect places) result =
      (result.1 ++ (cs.filter (isRouted places)).mapIdx fun k c =>
          planner.arrowFor places (result.1.length + k) c,
        result.2 ++ cs.flatMap (remarksOn places)) := by
  induction cs with
  | nil =>
    intro result
    simp
  | cons c cs ih =>
    intro result
    rw [List.foldl_cons, ih, connect_eq, List.flatMap_cons]
    refine Prod.ext ?_ (List.append_assoc ..)
    by_cases hrouted : isRouted places c
    · simp [hrouted, List.mapIdx_cons, Nat.add_comm, Nat.add_left_comm]
    · simp [hrouted]

end Planner

namespace Document

variable (document : Document) (c : Connection)

/-- The identifiers at the ends of a connection that are not declared, each once and that of the
source first. -/
def undeclaredEnds : List String :=
  [c.source, c.target].eraseDups.filter fun id => ¬ document.Declares id

/-- The finding about a connection that is left out. It names what is not declared. -/
def droppedFinding : Finding where
  severity := .warning
  code := some .unknownEndpoint
  message :=
    let missing := document.undeclaredEnds c
    "connection " ++ (if missing.length > 1 then "endpoints " else "endpoint ") ++
      " and ".intercalate (missing.map fun id => "`" ++ id ++ "`") ++ " not found"
  labels := [⟨c.span, "connection dropped", true⟩]
  advice := none

/-- The finding about a connection whose block cannot be read. -/
def styleFinding (e : ValueError) : Finding where
  severity := .warning
  code := some .invalidBlock
  message := "invalid connection style: " ++ e.message
  labels := [⟨c.span, "default style used", true⟩]
  advice := none

/-- What becomes of a connection of a document: the pen of its arrow, or none if it is left out,
and the findings about it. -/
inductive Fate : Option Pen → List Finding → Prop
  /-- One of its ends is not declared. -/
  | dropped (h : ¬ (document.Declares c.source ∧ document.Declares c.target)) :
    Fate none [document.droppedFinding c]
  /-- There is nothing in its block. -/
  | plain (h : document.Declares c.source ∧ document.Declares c.target)
    (hblank : Text.trim c.style.toList = []) : Fate (some .plain) []
  | styled (pen : Pen) (h : document.Declares c.source ∧ document.Declares c.target)
    (hstyle : Text.trim c.style.toList ≠ []) (hpen : Pen.ofBlock c.style = .ok pen) :
    Fate (some pen) []
  /-- Its block cannot be read. -/
  | misstyled (e : ValueError) (h : document.Declares c.source ∧ document.Declares c.target)
    (hstyle : Text.trim c.style.toList ≠ []) (he : Pen.ofBlock c.style = .error e) :
    Fate (some .plain) [styleFinding c e]

end Document

/-- The ends of a connection, with their anchors. -/
def Connection.ends (c : Connection) : (String × Anchor) × (String × Anchor) :=
  ((c.source, c.sourceAnchor), (c.target, c.targetAnchor))

/-- The ends of an arrow, with their anchors. -/
def Arrow.ends (arrow : Arrow) : (String × Anchor) × (String × Anchor) :=
  ((arrow.source, arrow.sourceAnchor), (arrow.target, arrow.targetAnchor))

namespace Planner

variable (planner : Planner) (document : Document) {places : OrderedMap Box}

theorem isRouted_places_iff (c : Connection) :
    isRouted (planner.plan document).places c = true ↔
      document.Declares c.source ∧ document.Declares c.target := by
  rw [isRouted, Bool.and_eq_true, contains_places_iff, contains_places_iff]

theorem missingEnds_places (c : Connection) :
    missingEnds (planner.plan document).places c = document.undeclaredEnds c := by
  have hends : (if c.source = c.target then [c.source] else [c.source, c.target]) =
      [c.source, c.target].eraseDups := by
    by_cases h : c.source = c.target
    · simp [h, List.eraseDups_cons]
    · have h' : ¬ c.target = c.source := fun e => h e.symm
      simp [h, h', List.eraseDups_cons]
  rw [missingEnds, Document.undeclaredEnds, hends]
  refine List.filter_congr fun id _ => ?_
  rw [Bool.eq_iff_iff, Bool.not_eq_true', Bool.eq_false_iff, ne_eq, contains_places_iff,
    decide_eq_true_iff]

theorem arrows_plan :
    (planner.plan document).arrows =
      (document.connections.filter (isRouted (planner.plan document).places)).mapIdx
        (planner.arrowFor (planner.plan document).places) := by
  rw [arrows_plan_eq_foldl, foldl_connect_eq]
  simp only [List.nil_append, List.length_nil, Nat.zero_add]

theorem warnings_plan :
    (planner.plan document).warnings =
      (planner.canvasOf document).2 ++ (planner.placed document).2 ++
        (planner.settled document).2 ++
          document.connections.flatMap (remarksOn (planner.plan document).places) := by
  rw [warnings_plan_eq_foldl, foldl_connect_eq]
  simp only [List.nil_append]

/-- Without connections there are the warnings of the other phases. -/
theorem warnings_plan_nil :
    (planner.plan { document with connections := [] }).warnings =
      (planner.canvasOf document).2 ++ (planner.placed document).2 ++
        (planner.settled document).2 := by
  have hcanvas : planner.canvasOf { document with connections := [] } =
      planner.canvasOf document := rfl
  have hplaced : planner.placed { document with connections := [] } =
      planner.placed document := rfl
  have hsettled : planner.settled { document with connections := [] } =
      planner.settled document := by rw [settled, hplaced, settled]
  rw [warnings_plan, List.flatMap_nil, List.append_nil, hcanvas, hplaced, hsettled]

/-- What an arrow shows apart from its number is read off its connection. -/
theorem map_arrows_plan {β : Type} (shown : Arrow → β) (of : Connection → β)
    (h : ∀ k c, shown (planner.arrowFor (planner.plan document).places k c) = of c) :
    (planner.plan document).arrows.map shown =
      (document.connections.filter (isRouted (planner.plan document).places)).map of := by
  rw [arrows_plan]
  refine List.ext_getElem? fun k => ?_
  rw [List.getElem?_map, List.getElem?_mapIdx, List.getElem?_map, Option.map_map]
  exact congrArg (Option.map · _) (funext (h k))

/-- The pen of a connection and the findings about it. -/
def fateIn (places : OrderedMap Box) (c : Connection) : Option Pen × List Finding :=
  (if isRouted places c then some (penOf c).1 else none,
    (remarksOn places c).map Warning.finding)

theorem fate_fateIn (c : Connection) :
    document.Fate c (fateIn (planner.plan document).places c).1
      (fateIn (planner.plan document).places c).2 := by
  unfold fateIn remarksOn
  by_cases hrouted : isRouted (planner.plan document).places c
  · have hends := (isRouted_places_iff planner document c).1 hrouted
    rw [if_pos hrouted, if_pos hrouted]
    unfold penOf
    by_cases hblank : Text.trim c.style.toList = []
    · rw [if_pos (List.isEmpty_iff.2 hblank)]
      exact .plain hends hblank
    · rw [if_neg fun h => hblank (List.isEmpty_iff.1 h)]
      cases hpen : Pen.ofBlock c.style with
      | ok pen => exact .styled pen hends hblank hpen
      | error e => exact .misstyled e hends hblank hpen
  · have hends := fun h => hrouted ((isRouted_places_iff planner document c).2 h)
    rw [if_neg hrouted, if_neg hrouted, missingEnds_places]
    exact .dropped hends

theorem code_of_mem_plan_nil {w : Warning}
    (hw : w ∈ (planner.plan { document with connections := [] }).warnings) :
    w.code ≠ .unknownEndpoint := by
  rw [warnings_plan_nil, List.mem_append, List.mem_append] at hw
  rcases hw with (hw | hw) | hw
  · rw [code_of_mem_canvasOf hw]
    decide
  · rw [code_of_mem_placed hw]
    decide
  · rcases isOfTie_of_mem_settled hw with h | h | h <;> rw [h] <;> decide

theorem code_of_mem_remarksOn {w : Warning} {c : Connection} (hw : w ∈ remarksOn places c) :
    w.code = .invalidBlock ∨ w.code = .unknownEndpoint := by
  unfold remarksOn at hw
  split at hw
  · unfold penOf at hw
    split at hw
    · cases hw
    · split at hw
      · cases hw
      · cases List.mem_singleton.1 hw
        exact .inl rfl
  · cases List.mem_singleton.1 hw
    exact .inr rfl

/-- A connection is left out with one warning, or drawn with no warning of that kind. -/
theorem countP_remarksOn (c : Connection) :
    (remarksOn places c).countP (·.code = .unknownEndpoint) =
      if isRouted places c then 0 else 1 := by
  unfold remarksOn
  by_cases hrouted : isRouted places c
  · rw [if_pos hrouted, if_pos hrouted, penOf]
    split
    · rfl
    · split <;> rfl
  · rw [if_neg hrouted, if_neg hrouted]
    rfl

theorem length_filter_add_countP (cs : List Connection) :
    (cs.filter (isRouted places)).length +
      (cs.flatMap (remarksOn places)).countP (·.code = .unknownEndpoint) = cs.length := by
  induction cs with
  | nil => rfl
  | cons c cs ih =>
    rw [List.flatMap_cons, List.countP_append, countP_remarksOn, List.length_cons, ← ih]
    by_cases hrouted : isRouted places c
    · rw [List.filter_cons_of_pos hrouted, if_pos hrouted, List.length_cons]
      omega
    · rw [List.filter_cons_of_neg hrouted, if_neg hrouted]
      omega

/-- The connections whose ends are both declared are the ones that are drawn. -/
theorem filter_declares (cs : List Connection) :
    (cs.filter fun c => document.Declares c.source ∧ document.Declares c.target) =
      cs.filter (isRouted (planner.plan document).places) :=
  List.filter_congr fun c _ => by rw [Bool.eq_iff_iff, isRouted_places_iff, decide_eq_true_iff]

theorem map_pen_arrows_plan :
    (planner.plan document).arrows.map Arrow.pen =
      (document.connections.map (fateIn (planner.plan document).places)).filterMap Prod.fst := by
  rw [map_arrows_plan planner document Arrow.pen (fun c => (penOf c).1) fun _ _ => rfl]
  generalize (planner.plan document).places = places
  rw [List.filterMap_map, ← List.filterMap_eq_map, List.filterMap_filter]
  rfl

theorem map_finding_warnings_plan :
    (planner.plan document).warnings.map Warning.finding =
      (planner.plan { document with connections := [] }).warnings.map Warning.finding ++
        (document.connections.map (fateIn (planner.plan document).places)).flatMap Prod.snd := by
  rw [warnings_plan, warnings_plan_nil, List.map_append]
  generalize (planner.plan document).places = places
  rw [List.map_flatMap, List.flatMap_map]
  rfl

theorem length_arrows_add_countP :
    (planner.plan document).arrows.length +
      ((planner.plan document).warnings.map Warning.finding).countP
        (·.code = some .unknownEndpoint) = document.connections.length := by
  have hcodes : ∀ ws : List Warning,
      (ws.map Warning.finding).countP (·.code = some .unknownEndpoint) =
        ws.countP (·.code = .unknownEndpoint) := by
    intro ws
    rw [List.countP_map]
    exact List.countP_congr fun w _ => by simp [Warning.finding]
  have hearlier : (planner.plan { document with connections := [] }).warnings.countP
      (·.code = .unknownEndpoint) = 0 := by
    rw [List.countP_eq_zero]
    intro w hw
    simpa using code_of_mem_plan_nil planner document hw
  rw [hcodes, warnings_plan, ← warnings_plan_nil, List.countP_append, hearlier, Nat.zero_add,
    arrows_plan, List.length_mapIdx]
  exact length_filter_add_countP document.connections

/-- The connections of a document are accounted for one by one: the arrows stand for those whose
ends are both declared, in order and numbered without gaps, and what is found about connections is
found about each of them alone, in order and after everything else. -/
theorem plan_connections (planner : Planner) (document : Document) :
    let layout := planner.plan document
    let findings := layout.warnings.map Warning.finding
    let kept := document.connections.filter fun c =>
      document.Declares c.source ∧ document.Declares c.target
    layout.arrows.map Arrow.ends = kept.map Connection.ends ∧
      layout.arrows.map Arrow.marker =
        (List.range layout.arrows.length).map (fun k => "arrow-" ++ toString (k + 1)) ∧
      (∃ fates : List (Option Pen × List Finding),
        List.Forall₂ (fun c fate => document.Fate c fate.1 fate.2) document.connections fates ∧
        layout.arrows.map Arrow.pen = fates.filterMap Prod.fst ∧
        findings =
          (planner.plan { document with connections := [] }).warnings.map Warning.finding ++
            fates.flatMap Prod.snd) ∧
      layout.arrows.length + findings.countP (·.code = some .unknownEndpoint) =
        document.connections.length := by
  refine ⟨?ends, ?markers, ⟨_, ?fates, map_pen_arrows_plan planner document,
    map_finding_warnings_plan planner document⟩, length_arrows_add_countP planner document⟩
  case ends =>
    rw [filter_declares planner]
    exact map_arrows_plan planner document Arrow.ends Connection.ends fun _ _ => rfl
  case markers =>
    rw [arrows_plan, List.length_mapIdx]
    refine List.ext_getElem (by simp) fun k _ _ => ?_
    rw [List.getElem_map, List.getElem_mapIdx, List.getElem_map, List.getElem_range]
    rfl
  case fates =>
    rw [List.forall₂_map_right_iff, List.forall₂_same]
    exact fun c _ => fate_fateIn planner document c

end Planner

end BoxArrow
