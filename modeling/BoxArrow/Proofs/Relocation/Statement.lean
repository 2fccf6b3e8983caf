import BoxArrow.Statement

/-!
# Statements in other places

The spans of a statement only say where it stands. Moving them, in any way, gives the same
statement in another place. Erasing them gives the statement without a place.

## Main definitions

* `Statement.relocate` — the statement with its spans moved
* `Statement.bare` — the statement with its spans erased
-/

namespace BoxArrow

/-- The state declaration with its span moved. -/
def StateDeclaration.relocate (f : Span → Span) (state : StateDeclaration) : StateDeclaration :=
  { state with span := f state.span }

/-- The connection with its span moved. -/
def Connection.relocate (f : Span → Span) (c : Connection) : Connection :=
  { c with span := f c.span }

/-- The heading with its span moved. -/
def Heading.relocate (f : Span → Span) (h : Heading) : Heading :=
  { h with span := f h.span }

/-- The member with its span moved. -/
def Member.relocate (f : Span → Span) : Member → Member
  | connection c => connection (c.relocate f)
  | declaration h => declaration (h.relocate f)

/-- The statement with its spans moved. -/
def Statement.relocate (f : Span → Span) : Statement → Statement
  | state s => state (s.relocate f)
  | connection c => connection (c.relocate f)
  | declaration h body => declaration (h.relocate f) (body.map (·.map (Member.relocate f)))

/-- The span that stands for no place at all. -/
def Span.erase : Span → Span := fun _ => .point 0

theorem Statement.relocate_relocate (f g : Span → Span) (s : Statement) :
    (s.relocate f).relocate g = s.relocate (g ∘ f) := by
  rcases s with _ | _ | ⟨h, _ | members⟩
  · rfl
  · rfl
  · rfl
  · have hmember : Member.relocate g ∘ Member.relocate f = Member.relocate (g ∘ f) := by
      funext m
      cases m <;> rfl
    simp only [relocate, Option.map_some, List.map_map, hmember]
    rfl

/-- The state declaration without its place. -/
abbrev StateDeclaration.bare : StateDeclaration → StateDeclaration := relocate Span.erase

/-- The connection without its place. -/
abbrev Connection.bare : Connection → Connection := relocate Span.erase

/-- The heading without its place. -/
abbrev Heading.bare : Heading → Heading := relocate Span.erase

/-- The member without its place. -/
abbrev Member.bare : Member → Member := relocate Span.erase

/-- The statement without its place. -/
abbrev Statement.bare : Statement → Statement := relocate Span.erase

namespace Statement

/-- What is the same without its place as a state declaration is that declaration elsewhere. -/
theorem eq_state_of_bare {state : StateDeclaration} {s : Statement}
    (h : s.bare = (Statement.state state).bare) :
    ∃ span, s = .state { state with span := span } := by
  cases s with
  | state s =>
    obtain ⟨hname, hcontent, -⟩ := StateDeclaration.mk.inj (Statement.state.inj h)
    exact ⟨s.span, by rw [← hname, ← hcontent]⟩
  | connection _ | declaration _ _ => exact Statement.noConfusion h

theorem eq_connection_of_bare {c : Connection} {s : Statement}
    (h : s.bare = (Statement.connection c).bare) :
    ∃ span, s = .connection { c with span := span } := by
  cases s with
  | connection c' =>
    obtain ⟨hsource, hsourceAnchor, htarget, htargetAnchor, hstyle, -⟩ :=
      Connection.mk.inj (Statement.connection.inj h)
    exact ⟨c'.span, by
      rw [← hsource, ← hsourceAnchor, ← htarget, ← htargetAnchor, ← hstyle]⟩
  | state _ | declaration _ _ => exact Statement.noConfusion h

theorem eq_declaration_of_bare {heading : Heading} {s : Statement}
    (h : s.bare = (Statement.declaration heading none).bare) :
    ∃ span, s = .declaration { heading with span := span } none := by
  cases s with
  | declaration heading' body =>
    obtain ⟨hheading, hbody⟩ := Statement.declaration.inj h
    obtain ⟨hname, htype, htag, -⟩ := Heading.mk.inj hheading
    exact ⟨heading'.span, by
      rw [← hname, ← htype, ← htag, Option.map_eq_none_iff.1 hbody]⟩
  | state _ | connection _ => exact Statement.noConfusion h

end Statement

theorem Statement.bare_bare (s : Statement) : s.bare.bare = s.bare :=
  relocate_relocate Span.erase Span.erase s

end BoxArrow
