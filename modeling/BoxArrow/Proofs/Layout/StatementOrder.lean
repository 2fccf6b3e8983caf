import BoxArrow.Proofs.Grammar.Lines
import BoxArrow.Proofs.Layout.Agreement

/-!
# The order of statements

A source is put together from passages that can be read alone. In whichever order they stand, the
layout is the same, as long as all identifiers are distinct, and as long as the states of each name
and the connections keep their order. A component may be aligned with one that is declared later,
and a state may stand before or after its users.

## Main definitions

* `Passage.ids` — the identifiers that passages declare, at any depth
* `Passage.statesNamed`, `Passage.connections` — what has to keep its order

## Main results

* `Planner.compile_join_agrees` — the order of passages does not show in the layout
-/

namespace BoxArrow

namespace Statement

theorem headings_relocate (f : Span → Span) (s : Statement) :
    (s.relocate f).headings = s.headings.map (Heading.relocate f) := by
  rcases s with _ | _ | ⟨h, _ | members⟩
  · rfl
  · rfl
  · rfl
  · change h.relocate f :: _ = _
    rw [Member.filterMap_heading?_relocate]
    rfl

variable {ss ss' : List Statement} (hbare : ss.map Statement.bare = ss'.map Statement.bare)
include hbare

theorem map_name_headings_congr :
    (ss.flatMap headings).map Heading.name = (ss'.flatMap headings).map Heading.name := by
  have hnames : ∀ ss : List Statement, (ss.flatMap headings).map Heading.name =
      ((ss.map (relocate Span.erase)).flatMap headings).map Heading.name := by
    intro ss
    rw [List.flatMap_map, List.map_flatMap, List.map_flatMap]
    refine List.flatMap_congr fun s _ => ?_
    rw [headings_relocate, List.map_map]
    rfl
  rw [hnames ss, hnames ss', hbare]

theorem map_bare_state?_congr (name : String) :
    ((ss.filterMap state?).filter (·.name = name)).map StateDeclaration.bare =
      ((ss'.filterMap state?).filter (·.name = name)).map StateDeclaration.bare := by
  have hstates : ∀ ss : List Statement,
      ((ss.filterMap state?).filter (·.name = name)).map StateDeclaration.bare =
        ((ss.map (relocate Span.erase)).filterMap state?).filter (·.name = name) := by
    intro ss
    have hmap : (ss.map (relocate Span.erase)).filterMap state? =
        (ss.filterMap state?).map (StateDeclaration.relocate Span.erase) := by
      rw [List.filterMap_map, List.map_filterMap]
      exact congrArg (List.filterMap · ss) (funext (state?_relocate Span.erase))
    rw [hmap, List.filter_map]
    rfl
  rw [hstates ss, hstates ss', hbare]

theorem map_bare_connections_congr :
    (ss.flatMap connections).map Connection.bare =
      (ss'.flatMap connections).map Connection.bare := by
  change (ss.flatMap connections).map (Connection.relocate Span.erase) = _
  rw [← flatMap_connections_relocate, hbare]
  exact flatMap_connections_relocate Span.erase ss'

end Statement

namespace Passage

/-- The identifiers of all components that passages declare, those inside containers included. -/
def ids (passages : List Passage) : List String :=
  ((passages.flatMap statements).flatMap Statement.headings).map Heading.name

/-- The state declarations of one name, in their order and without their places. -/
def statesNamed (name : String) (passages : List Passage) : List StateDeclaration :=
  (((passages.flatMap statements).filterMap Statement.state?).filter (·.name = name)).map
    StateDeclaration.bare

/-- The connections, those inside containers included, in their order and without their places. -/
def connections (passages : List Passage) : List Connection :=
  ((passages.flatMap statements).flatMap Statement.connections).map Connection.bare

end Passage

namespace Planner

/-- Passages with distinct identifiers can be put together in any order that keeps the states of
each name and the connections in theirs: the source compiles in every such order, and the layouts
agree. -/
theorem compile_join_agrees (planner : Planner) {ps ps' : List Passage} (hperm : ps.Perm ps')
    (hids : (Passage.ids ps).Nodup)
    (hstates : ∀ name, Passage.statesNamed name ps = Passage.statesNamed name ps')
    (hconnections : Passage.connections ps = Passage.connections ps') :
    ∃ layout layout', planner.compile (Passage.join ps) = .ok layout ∧
      planner.compile (Passage.join ps') = .ok layout' ∧ layout.Agrees layout' := by
  -- Each source has the statements of its passages, in other places than in the passages alone.
  obtain ⟨ss, hread, hbare⟩ := Passage.ofTokens_join ps
  obtain ⟨ss', hread', hbare'⟩ := Passage.ofTokens_join ps'
  have hcompile : ∀ {source ss}, Statement.ofTokens (Token.scan source) = .ok ss →
      planner.compile source = .ok (planner.plan (.ofStatements ss)) := by
    intro source ss hread
    rw [compile, Document.ofSource, Document.ofTokens, hread]
    rfl
  refine ⟨_, _, hcompile hread, hcompile hread', planner.plan_agrees ?_ ?_ ?_ ?_⟩
  · rw [Statement.map_name_headings_congr hbare]
    exact hids
  · refine Document.sameStates_statesOf fun name => ?_
    rw [Statement.map_bare_state?_congr hbare, Statement.map_bare_state?_congr hbare']
    exact hstates name
  · rw [Statement.map_bare_connections_congr hbare, Statement.map_bare_connections_congr hbare']
    exact hconnections
  · rw [hbare, hbare']
    exact (hperm.flatMap_right _).map _

/-- A component that is aligned with another one, its state and the other one in a container, from
the first to the last and from the last to the first. -/
theorem compile_join_agrees_reverse :
    ∃ layout layout',
      standard.compile "a\n@a(x: &b.c)\nc \x7b b a.n --> b \x7d" = .ok layout ∧
        standard.compile "c \x7b b a.n --> b \x7d\n@a(x: &b.c)\na" = .ok layout' ∧
        layout.Agrees layout' := by
  let component : Passage := ⟨"a", [.declaration ⟨"a", none, none, ⟨0, 1⟩⟩ none], by
    decide +kernel⟩
  let state : Passage := ⟨"@a(x: &b.c)", [.state ⟨"a", "x:&b.c", ⟨0, 11⟩⟩], by
    decide +kernel⟩
  let container : Passage := ⟨"c \x7b b a.n --> b \x7d",
    [.declaration ⟨"c", none, none, ⟨0, 1⟩⟩ (some [.declaration ⟨"b", none, none, ⟨4, 5⟩⟩,
      .connection ⟨"a", .ofText "n", "b", .ofText "", "", ⟨6, 15⟩⟩])], by
    decide +kernel⟩
  have hperm : [component, state, container].Perm [container, state, component] :=
    (List.reverse_perm _).symm
  have hids : (Passage.ids [component, state, container]).Nodup := by decide
  have hjoin : Passage.join [component, state, container] =
      "a\n@a(x: &b.c)\nc \x7b b a.n --> b \x7d" := by decide +kernel
  have hjoin' : Passage.join [container, state, component] =
      "c \x7b b a.n --> b \x7d\n@a(x: &b.c)\na" := by decide +kernel
  rw [← hjoin, ← hjoin']
  exact compile_join_agrees standard hperm hids (fun _ => rfl) rfl

end Planner

end BoxArrow
