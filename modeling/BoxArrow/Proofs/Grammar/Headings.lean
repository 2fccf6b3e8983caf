import BoxArrow.Proofs.Grammar.Occurrence

/-!
# Where components are declared

The heading of a component covers its name and what is written behind the name, its type and its
state tag, but not its body. Every component, in a body or outside, is declared by a heading that
is read at some place of the source.

## Main results

* `Grammar.exists_of_readHeading` — a heading is read from its lexemes, and covers them
* `Grammar.exists_readHeading_of_mem` — every heading is read at some place
-/

namespace BoxArrow.Grammar

open Lexeme (AreOrdered extent)

variable {ts rest used : List Lexeme} {stop span : Span}

theorem exists_of_readType {name : String} {type : Option (String × Span)}
    (hordered : AreOrdered (used ++ ts)) (hused : used ≠ [])
    (h : Heading.readType name ts = .ok (type, rest)) :
    ∃ own, ts = own ++ rest ∧ IsType (own.map Lexeme.token) (type.map Prod.fst) ∧
      Heading.cover (extent used) type = extent (used ++ own) := by
  unfold Heading.readType at h
  split at h
  · cases h
    exact ⟨[_, _], rfl, .present _, union_extent_pair hordered hused⟩
  · cases h
  · cases h
    exact ⟨[], rfl, .absent, by rw [List.append_nil]; rfl⟩

theorem exists_of_readTag {name : String} {tag : Option (String × Span)}
    (hordered : AreOrdered (used ++ ts)) (hused : used ≠ [])
    (h : Heading.readTag name ts = .ok (tag, rest)) :
    ∃ own, ts = own ++ rest ∧ IsTag (own.map Lexeme.token) (tag.map Prod.fst) ∧
      Heading.cover (extent used) tag = extent (used ++ own) := by
  unfold Heading.readTag at h
  split at h
  -- The sign that opens the next statement is left to it.
  · cases h
    exact ⟨[], rfl, .absent, by rw [List.append_nil]; rfl⟩
  · cases h
    exact ⟨[_, _], rfl, .present _, union_extent_pair hordered hused⟩
  · cases h
  · cases h
    exact ⟨[], rfl, .absent, by rw [List.append_nil]; rfl⟩

/-- A heading is read from its lexemes, and covers them. -/
theorem exists_of_readHeading {name : List Char} {heading : Heading}
    (hordered : AreOrdered (⟨.identifier name, span⟩ :: ts))
    (h : Heading.read (.ofList name) span ts = .ok (heading, rest)) :
    ∃ own, ⟨.identifier name, span⟩ :: ts = own ++ rest ∧
      IsHeading (own.map Lexeme.token) heading ∧ heading.span = extent own := by
  obtain ⟨⟨type, ts'⟩, htype, h⟩ := bind_eq_ok_iff.1 h
  obtain ⟨⟨tag, rest'⟩, htag, h⟩ := bind_eq_ok_iff.1 h
  cases h
  rw [← List.singleton_append] at hordered
  obtain ⟨types, rfl, hisType, hcover⟩ := exists_of_readType hordered (List.cons_ne_nil _ _) htype
  rw [← List.append_assoc] at hordered
  obtain ⟨tags, rfl, hisTag, hcover'⟩ := exists_of_readTag hordered (by simp) htag
  refine ⟨⟨.identifier name, span⟩ :: types ++ tags, by simp, ?_, ?_⟩
  · have hheading : IsHeading _ ⟨.ofList name, type.map Prod.fst, tag.map Prod.fst,
        Heading.cover (Heading.cover span type) tag⟩ := .mk hisType hisTag
    simpa using hheading
  · change Heading.cover (Heading.cover (extent [⟨.identifier name, span⟩]) type) tag = _
    rw [hcover, hcover']
    rfl

/-- A heading is read where its name stands, in a body or outside. -/
theorem exists_readHeading_of_mem {ss : List Statement} {heading : Heading}
    (h : Statement.readAll stop ts = .ok ss) (hheading : heading ∈ ss.flatMap Statement.headings) :
    ∃ before name span ts' rest, ts = before ++ ⟨.identifier name, span⟩ :: ts' ∧
      Heading.read (.ofList name) span ts' = .ok (heading, rest) := by
  obtain ⟨s, hs, hheading⟩ := List.mem_flatMap.1 hheading
  have hown {body : Option (List Member)} (hs : .declaration heading body ∈ ss) :
      ∃ before name span ts' rest, ts = before ++ ⟨.identifier name, span⟩ :: ts' ∧
        Heading.read (.ofList name) span ts' = .ok (heading, rest) := by
    obtain ⟨before, first, ts', rest, rfl, hread⟩ := exists_of_mem_readAll h hs
    obtain ⟨_, _, -, hstate, -⟩ |
      ⟨name, span, rfl, ⟨_, hconnection, -⟩ | ⟨heading', rest', hread', hbody⟩⟩ :=
        statementRead_cases hread
    · cases hstate
    · cases hconnection
    · obtain ⟨ms, hdeclaration, -⟩ := isBody_of_readBody hbody
      cases hdeclaration
      exact ⟨before, name, span, ts', rest', rfl, hread'⟩
  -- A heading is that of a statement itself or that of a member of its body.
  rcases s with _ | _ | ⟨heading', _ | ms⟩
  · cases hheading
  · cases hheading
  · cases List.mem_singleton.1 hheading
    exact hown hs
  · rcases List.mem_cons.1 hheading with rfl | hheading
    · exact hown hs
    · obtain ⟨m, hm, hheading⟩ := List.mem_filterMap.1 hheading
      obtain ⟨before, first, opened, ts', rest, rfl, hread⟩ := exists_readMember_of_mem h hs hm
      obtain ⟨name, span, rfl, ⟨_, rfl, -⟩ | ⟨_, rfl, hread'⟩⟩ := memberRead_cases hread
      · cases hheading
      · cases hheading
        exact ⟨before, name, span, ts', rest, rfl, hread'⟩

end BoxArrow.Grammar
