import BoxArrow.Proofs.Document.Contents
import BoxArrow.Proofs.Relocation.Statement

/-!
# Documents in other places

Moving the spans of statements moves the spans of what they declare, and nothing else.

## Main results

* `Statement.connections_relocate`, `Statement.state?_relocate` — the parts of a moved statement
-/

namespace BoxArrow

variable (f : Span → Span)

theorem Member.heading?_relocate (m : Member) :
    (m.relocate f).heading? = m.heading?.map (Heading.relocate f) := by
  cases m <;> rfl

theorem Member.connection?_relocate (m : Member) :
    (m.relocate f).connection? = m.connection?.map (Connection.relocate f) := by
  cases m <;> rfl

theorem Member.filterMap_heading?_relocate (ms : List Member) :
    (ms.map (relocate f)).filterMap heading? = (ms.filterMap heading?).map (.relocate f) := by
  rw [List.filterMap_map, List.map_filterMap]
  exact congrArg (List.filterMap · ms) (funext (heading?_relocate f))

theorem Member.filterMap_connection?_relocate (ms : List Member) :
    (ms.map (relocate f)).filterMap connection? =
      (ms.filterMap connection?).map (.relocate f) := by
  rw [List.filterMap_map, List.map_filterMap]
  exact congrArg (List.filterMap · ms) (funext (connection?_relocate f))

theorem Statement.state?_relocate (s : Statement) :
    (s.relocate f).state? = s.state?.map (StateDeclaration.relocate f) := by
  cases s <;> rfl

theorem Statement.connections_relocate (s : Statement) :
    (s.relocate f).connections = s.connections.map (Connection.relocate f) := by
  rcases s with _ | _ | ⟨h, _ | members⟩
  · rfl
  · rfl
  · rfl
  · exact Member.filterMap_connection?_relocate f members

theorem Statement.flatMap_connections_relocate (ss : List Statement) :
    (ss.map (relocate f)).flatMap connections = (ss.flatMap connections).map (.relocate f) := by
  rw [List.flatMap_map, List.map_flatMap]
  exact congrArg (List.flatMap · ss) (funext (connections_relocate f))

end BoxArrow
