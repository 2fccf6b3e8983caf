import BoxArrow.Proofs.Document.States
import BoxArrow.Proofs.Grammar.Completeness
import BoxArrow.Proofs.Grammar.Headings
import BoxArrow.Proofs.Token.Slice

/-!
# What spans stand for

The span of a component, of a connection and of a state declaration says which bytes of the source
it is written in. Cut out of the source and read on their own, these bytes are that component, that
connection or that state declaration and nothing else. A component is cut out without its body.

## Main results

* `Grammar.exists_ofSource_of_lexemes` — the lexemes of a statement are read as it on their own
* `Document.ofSource_slices` — a document is made of what its spans stand for
-/

namespace BoxArrow

namespace Grammar

variable {source text : String} {s : Statement} {before own after : List Lexeme}

theorem exists_of_isStatement {ts : List Token} (h : IsStatement ts s) :
    ∃ t ts', ts = t :: ts' ∧ t.isQuoted = false := by
  cases h with
  | state _ => exact ⟨_, _, rfl, rfl⟩
  | connection hc =>
    obtain ⟨hsource, -, -⟩ := hc
    cases hsource <;> exact ⟨_, _, rfl, rfl⟩
  | declaration hh _ =>
    obtain ⟨-, -⟩ := hh
    exact ⟨_, _, rfl, rfl⟩

/-- A source with the tokens of one statement is read as that statement. -/
theorem exists_ofSource_of_isStatement (h : IsStatement (Token.tokensOf text) s) :
    ∃ s', s'.bare = s.bare ∧ Document.ofSource text = .ok (.ofStatements [s']) := by
  have hderives : Derives (Token.tokensOf text) [s] := by
    rw [← List.append_nil (Token.tokensOf text)]
    exact .cons h .nil
  obtain ⟨ss, hread, hbare⟩ := ofTokens_of_derives hderives
  obtain ⟨s', rfl, hs'⟩ := List.map_eq_singleton_iff.1 hbare
  exact ⟨s', hs', Document.ofSource_eq_ok_iff.2 ⟨_, hread, rfl⟩⟩

/-- The lexemes of a statement stand for a text that is read as that statement. -/
theorem exists_ofSource_of_lexemes (h : Token.scan source = before ++ own ++ after)
    (hs : IsStatement (own.map Lexeme.token) s) :
    ∃ text s', (Lexeme.extent own).Covers source text ∧ s'.bare = s.bare ∧
      Document.ofSource text = .ok (.ofStatements [s']) := by
  obtain ⟨t, ts, hown, ht⟩ := exists_of_isStatement hs
  obtain ⟨span, own, rfl, -⟩ := exists_of_map_token_eq_cons hown
  obtain ⟨text, hcovers, htokens⟩ := Token.exists_covers_extent h ht
  obtain ⟨s', hbare, hread⟩ := exists_ofSource_of_isStatement (htokens ▸ hs)
  exact ⟨text, s', hcovers, hbare, hread⟩

end Grammar

namespace Document

variable {source : String} {document : Document} {ss : List Statement}

/-- The lexemes of a declaration without a body are those of its component alone. -/
theorem exists_slice_heading {h : Heading} (hread : Statement.ofTokens (Token.scan source) = .ok ss)
    (hh : h ∈ ss.flatMap Statement.headings) :
    ∃ text span, h.span.Covers source text ∧
      ofSource text =
        .ok ⟨[⟨h.name, h.typeName, h.stateTag, span, 0, false, .empty, []⟩], .empty, []⟩ := by
  obtain ⟨before, name, nameSpan, ts, rest, hscan, hheading⟩ :=
    Grammar.exists_readHeading_of_mem hread hh
  have hordered := Lexeme.areOrdered_scan source
  rw [hscan] at hordered
  obtain ⟨own, hown, hisHeading, hspan⟩ :=
    Grammar.exists_of_readHeading (hordered.sublist (List.sublist_append_right _ _)) hheading
  have hs : Grammar.IsStatement (own.map Lexeme.token) (.declaration h none) := by
    rw [← List.append_nil (own.map _)]
    exact .declaration hisHeading .absent
  rw [hown, ← List.append_assoc] at hscan
  obtain ⟨text, s', hcovers, hbare, hsource⟩ := Grammar.exists_ofSource_of_lexemes hscan hs
  obtain ⟨span, rfl⟩ := Statement.eq_declaration_of_bare hbare
  exact ⟨text, span, hspan ▸ hcovers, hsource⟩

theorem exists_slice_connection {c : Connection}
    (hread : Statement.ofTokens (Token.scan source) = .ok ss)
    (hc : c ∈ ss.flatMap Statement.connections) :
    ∃ text span, c.span.Covers source text ∧
      ofSource text = .ok ⟨[], .empty, [{ c with span := span }]⟩ := by
  obtain ⟨before, name, nameSpan, ts, rest, hscan, hconnection⟩ :=
    Grammar.exists_read?_of_mem hread hc
  have hordered := Lexeme.areOrdered_scan source
  rw [hscan] at hordered
  obtain ⟨ends, block, hown, -, -, hspan⟩ :=
    Grammar.exists_of_read? (hordered.sublist (List.sublist_append_right _ _)) hconnection
  -- The tokens that the connection is read from are those of its lexemes.
  obtain ⟨used, hused, hisConnection⟩ := Grammar.isConnection_of_read? hconnection
  rw [hown, List.map_append] at hused
  rw [← List.append_cancel_right hused] at hisConnection
  rw [hown, ← List.append_assoc] at hscan
  obtain ⟨text, s', hcovers, hbare, hsource⟩ :=
    Grammar.exists_ofSource_of_lexemes hscan (.connection hisConnection)
  obtain ⟨span, rfl⟩ := Statement.eq_connection_of_bare hbare
  exact ⟨text, span, hspan ▸ hcovers, hsource⟩

theorem exists_slice_state {s : StateDeclaration}
    (hread : Statement.ofTokens (Token.scan source) = .ok ss) (hs : .state s ∈ ss) :
    ∃ text span, s.span.Covers source text ∧
      ofSource text = .ok ⟨[], OrderedMap.empty.insert s.name { s with span := span }, []⟩ := by
  obtain ⟨place⟩ := Grammar.nonempty_statePlace (Lexeme.areOrdered_scan source) hread hs
  have hstate : Grammar.IsStatement ((⟨.atSign, place.start⟩ ::
      ⟨.identifier place.name, place.nameSpan⟩ :: place.block.lexemes).map Lexeme.token)
        (.state ⟨.ofList place.name, place.block.text, s.span⟩) := .state place.block.isBlock
  rw [← place.name_eq, ← place.content_eq] at hstate
  obtain ⟨text, s', hcovers, hbare, hsource⟩ :=
    Grammar.exists_ofSource_of_lexemes place.lexemes_eq hstate
  obtain ⟨span, rfl⟩ := Statement.eq_state_of_bare hbare
  exact ⟨text, span, place.span_eq ▸ hcovers, hsource⟩

/-- Every component, every connection and every state of a document is what its span stands for: the
bytes that it covers, read on their own, are a component of the same name, type and state tag, the
same connection or the same state declaration, and nothing else. -/
theorem ofSource_slices (h : ofSource source = .ok document) :
    (∀ d, document.Contains d → ∃ text span, d.span.Covers source text ∧
      ofSource text =
        .ok ⟨[⟨d.name, d.typeName, d.stateTag, span, 0, false, .empty, []⟩], .empty, []⟩) ∧
    (∀ c ∈ document.connections, ∃ text span, c.span.Covers source text ∧
      ofSource text = .ok ⟨[], .empty, [{ c with span := span }]⟩) ∧
    ∀ entry ∈ document.states.entries, ∃ text span, entry.2.span.Covers source text ∧
      ofSource text =
        .ok ⟨[], OrderedMap.empty.insert entry.1 { entry.2 with span := span }, []⟩ := by
  obtain ⟨ss, hread, rfl⟩ := ofSource_eq_ok_iff.1 h
  refine ⟨?_, ?_, ?_⟩
  · intro d hd
    obtain ⟨depth, isContainer, children, heading, hheading, rfl, -⟩ := hd.exists_ofHeading
    rw [Declaration.ofHeading_eq (isNamed_statesOf ss)]
    exact exists_slice_heading hread hheading
  · intro c hc
    rw [ofStatements_eq] at hc
    exact exists_slice_connection hread hc
  · intro entry hentry
    rw [ofStatements_eq] at hentry
    rw [← isNamed_statesOf ss entry hentry]
    exact exists_slice_state hread (mem_of_mem_values_statesOf (List.mem_map_of_mem hentry))

/-- A container behind a character of two bytes, a connection with an anchor and a block, and a
state with quoted text. -/
theorem ofSource_slices_accents :
    ∃ document, ofSource "é:t @s\x7bb\x7d\nb.e-->é ( (x) )\n@s( k : 'ü' )" = .ok document ∧
      document.declarations.map (·.span) = [⟨0, 7⟩] ∧
      document.connections.map (·.span) = [⟨11, 27⟩] ∧
      document.states.values.map (·.span) = [⟨28, 42⟩] ∧
      (∀ d, document.Contains d → ∃ text span,
        d.span.Covers "é:t @s\x7bb\x7d\nb.e-->é ( (x) )\n@s( k : 'ü' )" text ∧
        ofSource text =
          .ok ⟨[⟨d.name, d.typeName, d.stateTag, span, 0, false, .empty, []⟩], .empty, []⟩) ∧
      (∀ c ∈ document.connections, ∃ text span,
        c.span.Covers "é:t @s\x7bb\x7d\nb.e-->é ( (x) )\n@s( k : 'ü' )" text ∧
        ofSource text = .ok ⟨[], .empty, [{ c with span := span }]⟩) ∧
      ∀ entry ∈ document.states.entries, ∃ text span,
        entry.2.span.Covers "é:t @s\x7bb\x7d\nb.e-->é ( (x) )\n@s( k : 'ü' )" text ∧
        ofSource text =
          .ok ⟨[], OrderedMap.empty.insert entry.1 { entry.2 with span := span }, []⟩ := by
  have hread : Statement.ofTokens
      (Token.scan "é:t @s\x7bb\x7d\nb.e-->é ( (x) )\n@s( k : 'ü' )") =
        .ok [.declaration ⟨"é", some "t", some "s", ⟨0, 7⟩⟩
            (some [.declaration ⟨"b", none, none, ⟨8, 9⟩⟩]),
          .connection ⟨"b", .ofText "e", "é", .ofText "", "(x)", ⟨11, 27⟩⟩,
          .state ⟨"s", "k:'ü'", ⟨28, 42⟩⟩] := by
    decide +kernel
  have hsource := ofSource_eq_ok_iff.2 ⟨_, hread, rfl⟩
  exact ⟨_, hsource, by decide, by decide, by decide, ofSource_slices hsource⟩

end Document

end BoxArrow
