import BoxArrow.Proofs.Layout.Plan
import BoxArrow.Proofs.Relocation.Forest
import BoxArrow.Proofs.Token.Lexical
import BoxArrow.Session

/-!
# Sources with the same tokens

Blanks and line breaks only tell where tokens stand. Two sources with the same tokens are read as
documents that differ in their spans, and are laid out alike, or they have the same error in
different places.

## Main definitions

* `Layout.relocate` — the layout with the spans of its warnings moved

## Main results

* `Planner.plan_relocate` — a moved document has the same layout, its warnings being moved
* `Planner.compile_congr_tokensOf` — only the tokens of a source matter
-/

namespace BoxArrow

variable (f : Span → Span)

/-- The layout with the spans of its warnings moved. -/
def Layout.relocate (layout : Layout) : Layout :=
  { layout with warnings := layout.warnings.map (.relocate f) }

theorem Layout.eq_relocate {layout layout' : Layout} (canvas : layout'.canvas = layout.canvas)
    (components : layout'.components = layout.components) (places : layout'.places = layout.places)
    (arrows : layout'.arrows = layout.arrows)
    (warnings : layout'.warnings = layout.warnings.map (.relocate f)) :
    layout' = layout.relocate f :=
  Layout.ext canvas components places arrows warnings

theorem Document.connections_relocate (document : Document) :
    (document.relocate f).connections = document.connections.map (.relocate f) := rfl

/-- The outcome of reading moved tokens is the moved outcome, if moving keeps what spans cover. -/
theorem Document.ofSource_relocate (hf : ∀ a b, f (a.union b) = (f a).union (f b))
    (source : String) :
    (Statement.readAll (f (Statement.stopOf (Token.scan source)))
        ((Token.scan source).map (.relocate f))).map ofStatements =
      relocateOutcome f (relocate f) (ofSource source) := by
  rw [Statement.readAll_relocate _ _ hf, ofSource, ofTokens]
  exact relocateOutcome_map ofStatements_relocate

/-- Sources with the same tokens are read alike, without their places. -/
theorem Document.ofSource_congr_tokensOf {source source' : String}
    (h : Token.tokensOf source = Token.tokensOf source') :
    relocateOutcome Span.erase (relocate Span.erase) (ofSource source) =
      relocateOutcome Span.erase (relocate Span.erase) (ofSource source') := by
  have herase (source : String) : (Token.scan source).map (Lexeme.relocate Span.erase) =
      (Token.tokensOf source).map fun t => ⟨t, .point 0⟩ := by
    rw [Token.tokensOf, List.map_map]
    rfl
  rw [← ofSource_relocate _ fun _ _ => rfl, ← ofSource_relocate _ fun _ _ => rfl, herase, herase, h]
  rfl

namespace Planner

variable (planner : Planner) (document : Document)

theorem canvasOf_relocate :
    planner.canvasOf (document.relocate f) =
      ((planner.canvasOf document).1, (planner.canvasOf document).2.map (.relocate f)) := by
  have hblock : (document.relocate f).states.get? canvasBlock =
      (document.states.get? canvasBlock).map (.relocate f) :=
    OrderedMap.get?_mapValues _ document.states canvasBlock
  unfold canvasOf
  rw [hblock]
  cases document.states.get? canvasBlock with
  | none => rfl
  | some block =>
    have hcontent : (block.relocate f).content = block.content := rfl
    simp only [Option.map_some, hcontent]
    cases CanvasSpec.schema.read block.content .empty <;> rfl

theorem component_relocate (forest : Forest) (figure : Figure) :
    component (forest.map (.relocate f)) (figure.relocate f) = component forest figure := by
  have hparent (p : Nat) : (List.map (Figure.relocate f) forest)[p]?.map Figure.id =
      forest[p]?.map Figure.id := by
    rw [List.getElem?_map, Option.map_map]
    rfl
  unfold component
  simp only [hparent]
  rfl

theorem placesOf_relocate (index : OrderedMap Nat) (forest : Forest) :
    placesOf index (forest.map (.relocate f)) = placesOf index forest := by
  refine congrArg OrderedMap.ofList (List.filterMap_congr fun entry _ => ?_)
  rw [List.getElem?_map, Option.map_map]
  rfl

theorem placed_relocate :
    planner.placed (document.relocate f) = Forest.relocate f (planner.placed document) :=
  Forest.place_relocate f planner.catalog document.declarations none ([], [])

theorem lastIndex_placed_relocate :
    (planner.placed (document.relocate f)).1.lastIndex = (planner.placed document).1.lastIndex := by
  rw [placed_relocate, Forest.relocate_fst, Forest.lastIndex_relocate]

theorem settled_relocate :
    planner.settled (document.relocate f) = Forest.relocate f (planner.settled document) := by
  rw [settled, lastIndex_placed_relocate, placed_relocate, Forest.relocate_fst,
    Forest.settle_relocate, settled]

theorem places_plan_relocate :
    (planner.plan (document.relocate f)).places = (planner.plan document).places := by
  rw [places_plan, places_plan, lastIndex_placed_relocate, settled_relocate, Forest.relocate_fst,
    placesOf_relocate]

/-- A moved document has the same layout, its warnings being moved. -/
theorem plan_relocate :
    planner.plan (document.relocate f) = (planner.plan document).relocate f := by
  -- Connections are routed between the same places.
  have hroutes := planner.foldl_connect_relocate f (planner.plan document).places
    document.connections ([], [])
  rw [List.map_nil, ← Document.connections_relocate] at hroutes
  apply Layout.eq_relocate
  case canvas => rw [canvas_plan, canvasOf_relocate, canvas_plan]
  case components =>
    rw [components_plan, components_plan, settled_relocate, Forest.relocate_fst, List.map_map]
    exact List.map_congr_left fun figure _ => component_relocate f _ figure
  case places => exact planner.places_plan_relocate f document
  case arrows =>
    rw [arrows_plan_eq_foldl, places_plan_relocate, hroutes, arrows_plan_eq_foldl]
  case warnings =>
    rw [warnings_plan_eq_foldl, places_plan_relocate, hroutes, canvasOf_relocate, placed_relocate,
      settled_relocate, Forest.relocate_snd, Forest.relocate_snd, warnings_plan_eq_foldl,
      List.map_append, List.map_append, List.map_append]

/-- Only the tokens of a source matter. Two sources with the same tokens either have the same error,
or are laid out alike with the same warnings in the same order, the places of labels aside. -/
theorem compile_congr_tokensOf {source source' : String}
    (h : Token.tokensOf source = Token.tokensOf source') :
    (∃ finding finding' : Finding,
      (planner.compile source).mapError Failure.ofSyntaxError = .error (.source [finding]) ∧
      (planner.compile source').mapError Failure.ofSyntaxError = .error (.source [finding']) ∧
      finding.bare = finding'.bare) ∨
    ∃ layout layout' : Layout,
      planner.compile source = .ok layout ∧ planner.compile source' = .ok layout' ∧
      layout.canvas = layout'.canvas ∧ layout.components = layout'.components ∧
      layout.places = layout'.places ∧ layout.arrows = layout'.arrows ∧
      layout.warnings.map (fun w => w.finding.bare) =
        layout'.warnings.map (fun w => w.finding.bare) := by
  -- Planning commutes with forgetting all places, and the documents differ in their places alone.
  have houtcome (source : String) :
      relocateOutcome Span.erase (Layout.relocate Span.erase) (planner.compile source) =
        (relocateOutcome Span.erase (Document.relocate Span.erase)
          (Document.ofSource source)).map planner.plan :=
    (relocateOutcome_map (planner.plan_relocate Span.erase)).symm
  have hsame := (houtcome source).trans
    ((congrArg (Except.map planner.plan) (Document.ofSource_congr_tokensOf h)).trans
      (houtcome source').symm)
  cases hcompile : planner.compile source with
  | error e =>
    cases hcompile' : planner.compile source' with
    | error e' =>
      rw [hcompile, hcompile'] at hsame
      refine .inl ⟨e.finding, e'.finding, rfl, rfl, ?_⟩
      have hfinding (e : SyntaxError) : e.finding.bare = (e.relocate Span.erase).finding :=
        (e.finding_relocate Span.erase).symm
      rw [hfinding, hfinding, Except.error.inj hsame]
    | ok layout' =>
      rw [hcompile, hcompile'] at hsame
      cases hsame
  | ok layout =>
    cases hcompile' : planner.compile source' with
    | error e' =>
      rw [hcompile, hcompile'] at hsame
      cases hsame
    | ok layout' =>
      rw [hcompile, hcompile'] at hsame
      obtain ⟨hcanvas, hcomponents, hplaces, harrows, hwarnings⟩ :=
        Layout.mk.inj (Except.ok.inj hsame)
      refine .inr ⟨layout, layout', rfl, rfl, hcanvas, hcomponents, hplaces, harrows, ?_⟩
      rw [Warning.map_finding_bare, Warning.map_finding_bare, hwarnings]

/-- A reference to a component that is not declared, on one line and on four. -/
theorem compile_congr_tokensOf_lines :
    Token.tokensOf "a@s b@s(x: &c.l)a-->b" = Token.tokensOf "a @ s\nb\n@s( x:&c.l )\na --> b" ∧
    Token.scan "a@s b@s(x: &c.l)a-->b" ≠ Token.scan "a @ s\nb\n@s( x:&c.l )\na --> b" ∧
    ∃ layout layout' : Layout,
      standard.compile "a@s b@s(x: &c.l)a-->b" = .ok layout ∧
      standard.compile "a @ s\nb\n@s( x:&c.l )\na --> b" = .ok layout' ∧
      layout.components = layout'.components ∧ layout.arrows = layout'.arrows ∧
      layout.warnings.map (fun w => w.finding.bare) =
        layout'.warnings.map (fun w => w.finding.bare) := by
  have htokens : Token.tokensOf "a@s b@s(x: &c.l)a-->b" =
      Token.tokensOf "a @ s\nb\n@s( x:&c.l )\na --> b" := by
    decide +kernel
  have hread : Statement.ofTokens (Token.scan "a@s b@s(x: &c.l)a-->b") =
      .ok [.declaration ⟨"a", none, some "s", ⟨0, 3⟩⟩ none,
        .declaration ⟨"b", none, none, ⟨4, 5⟩⟩ none, .state ⟨"s", "x:&c.l", ⟨5, 16⟩⟩,
        .connection ⟨"a", .ofText "", "b", .ofText "", "", ⟨16, 21⟩⟩] := by
    decide +kernel
  refine ⟨htokens, by decide +kernel, ?_⟩
  rcases standard.compile_congr_tokensOf htokens with
    ⟨finding, -, herror, -⟩ | ⟨layout, layout', hok, hok', -, hcomponents, -, harrows, hwarnings⟩
  · rw [compile, Document.ofSource_eq_ok_iff.2 ⟨_, hread, rfl⟩] at herror
    cases herror
  · exact ⟨layout, layout', hok, hok', hcomponents, harrows, hwarnings⟩

end Planner

end BoxArrow
