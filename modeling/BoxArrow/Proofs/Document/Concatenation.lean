import BoxArrow.Proofs.Document.States
import BoxArrow.Proofs.Grammar.Continuation
import BoxArrow.Proofs.Grammar.Lines
import BoxArrow.Proofs.Relocation.Document
import BoxArrow.Proofs.Relocation.Layout

/-!
# Two sources, one after the other

Statements have no mark at their end, but where a source can be read, nothing that starts on a new
line behind it can be taken for a part of it, and it can be taken for no part of what follows. So
the document of two sources is made of those of the two, and an error in the second is found as it
is in the second alone, each with the places moved behind the first.

## Main definitions

* `Document.relocate` — a document with all spans moved
* `Document.followedBy` — the document that says what two documents say, one after the other

## Main results

* `Document.ofStatements_append` — the document of the statements of two documents
* `Document.ofSource_append` — the outcome of reading two sources, one after the other
-/

namespace BoxArrow

namespace Declaration

/-- The declarations, and all that is inside them, with their spans and those of their states
moved. -/
def relocate (f : Span → Span) : List Declaration → List Declaration
  | [] => []
  | d@{ children, .. } :: declarations =>
    { d with
      span := f d.span
      states := d.states.mapValues (.relocate f)
      children := relocate f children } :: relocate f declarations

/-- The declarations, and all that is inside them, with those of the given states that they
bear. -/
def restate (states : OrderedMap StateDeclaration) : List Declaration → List Declaration
  | [] => []
  | d@{ children, .. } :: declarations =>
    { d with
      states := states.filter d.bears
      children := restate states children } :: restate states declarations

end Declaration

/-- The document with all spans moved. -/
def Document.relocate (f : Span → Span) (document : Document) : Document where
  declarations := Declaration.relocate f document.declarations
  states := document.states.mapValues (.relocate f)
  connections := document.connections.map (.relocate f)

/-- The document that says what two documents say, one after the other: its states are those of the
first with those of the second written over them, and every component has those of them that it
bears. -/
def Document.followedBy (document next : Document) : Document where
  declarations :=
    Declaration.restate (document.states.overwrite next.states)
      (document.declarations ++ next.declarations)
  states := document.states.overwrite next.states
  connections := document.connections ++ next.connections

theorem IsNamed.mapValues_relocate {states : OrderedMap StateDeclaration} (h : IsNamed states)
    (f : Span → Span) : IsNamed (states.mapValues (.relocate f)) := by
  intro entry hentry
  obtain ⟨entry', hentry', rfl⟩ := List.mem_map.1 hentry
  exact h entry' hentry'

namespace Declaration

variable {f : Span → Span} {states states' : OrderedMap StateDeclaration}

theorem relocate_ofHeading_cons (hnamed : IsNamed states) (depth : Nat) (isContainer : Bool)
    (children declarations : List Declaration) (h : Heading) :
    relocate f (ofHeading states depth isContainer children h :: declarations) =
      ofHeading (states.mapValues (.relocate f)) depth isContainer (relocate f children)
        (h.relocate f) :: relocate f declarations := by
  rw [ofHeading_eq hnamed, ofHeading_eq (hnamed.mapValues_relocate f), relocate,
    OrderedMap.filter_mapValues]
  rfl

theorem restate_ofHeading_cons (hnamed : IsNamed states) (hnamed' : IsNamed states') (depth : Nat)
    (isContainer : Bool) (children declarations : List Declaration) (h : Heading) :
    restate states' (ofHeading states depth isContainer children h :: declarations) =
      ofHeading states' depth isContainer (restate states' children) h ::
        restate states' declarations := by
  rw [ofHeading_eq hnamed, ofHeading_eq hnamed', restate]
  rfl

theorem relocate_map_ofHeading (hnamed : IsNamed states) (hs : List Heading) :
    relocate f (hs.map (ofHeading states 1 false [])) =
      (hs.map (Heading.relocate f)).map
        (ofHeading (states.mapValues (.relocate f)) 1 false []) := by
  induction hs with
  | nil => rw [List.map_nil, relocate, List.map_nil, List.map_nil]
  | cons h hs ih => rw [List.map_cons, relocate_ofHeading_cons hnamed, ih, relocate]; rfl

theorem restate_map_ofHeading (hnamed : IsNamed states) (hnamed' : IsNamed states')
    (hs : List Heading) :
    restate states' (hs.map (ofHeading states 1 false [])) =
      hs.map (ofHeading states' 1 false []) := by
  induction hs with
  | nil => rw [List.map_nil, restate, List.map_nil]
  | cons h hs ih => rw [List.map_cons, restate_ofHeading_cons hnamed hnamed', ih, restate]; rfl

theorem relocate_filterMap_ofStatement? (hnamed : IsNamed states) (ss : List Statement) :
    relocate f (ss.filterMap (ofStatement? states)) =
      (ss.map (Statement.relocate f)).filterMap
        (ofStatement? (states.mapValues (.relocate f))) := by
  induction ss with
  | nil => rw [List.filterMap_nil, relocate]; rfl
  | cons s ss ih =>
    rcases s with s | c | ⟨h, _ | members⟩
    · exact ih
    · exact ih
    · change relocate f (ofHeading states 0 false [] h :: _) = ofHeading _ 0 false [] _ :: _
      rw [relocate_ofHeading_cons hnamed, ih, relocate]
    · change relocate f (ofHeading states 0 true _ h :: _) = ofHeading _ 0 true _ _ :: _
      rw [relocate_ofHeading_cons hnamed, ih, relocate_map_ofHeading hnamed,
        ← Member.filterMap_heading?_relocate]

theorem restate_filterMap_ofStatement? (hnamed : IsNamed states) (hnamed' : IsNamed states')
    (ss : List Statement) :
    restate states' (ss.filterMap (ofStatement? states)) =
      ss.filterMap (ofStatement? states') := by
  induction ss with
  | nil => rw [List.filterMap_nil, restate]; rfl
  | cons s ss ih =>
    rcases s with s | c | ⟨h, _ | members⟩
    · exact ih
    · exact ih
    · change restate states' (ofHeading states 0 false [] h :: _) = ofHeading _ 0 false [] _ :: _
      rw [restate_ofHeading_cons hnamed hnamed', ih, restate]
    · change restate states' (ofHeading states 0 true _ h :: _) = ofHeading _ 0 true _ _ :: _
      rw [restate_ofHeading_cons hnamed hnamed', ih, restate_map_ofHeading hnamed hnamed']

theorem restate_append (front back : List Declaration) :
    restate states (front ++ back) = restate states front ++ restate states back := by
  induction front with
  | nil => rw [restate, List.nil_append, List.nil_append]
  | cons d front ih =>
    cases d
    rw [List.cons_append, restate, restate, ih, List.cons_append]

end Declaration

namespace Document

variable {f : Span → Span}

theorem statesOf_append (ss ss' : List Statement) :
    statesOf (ss ++ ss') = (statesOf ss).overwrite (statesOf ss') := by
  rw [statesOf, List.filterMap_append, List.map_append, OrderedMap.ofList, List.foldl_append,
    OrderedMap.foldl_insert_eq_overwrite]
  rfl

theorem statesOf_relocate (ss : List Statement) :
    statesOf (ss.map (Statement.relocate f)) = (statesOf ss).mapValues (.relocate f) := by
  rw [statesOf, statesOf, OrderedMap.mapValues_ofList, List.filterMap_map, List.map_map,
    List.map_filterMap, List.map_filterMap]
  refine congrArg OrderedMap.ofList (List.filterMap_congr fun s _ => ?_)
  cases s <;> rfl

theorem ofStatements_relocate (ss : List Statement) :
    ofStatements (ss.map (Statement.relocate f)) = (ofStatements ss).relocate f := by
  rw [ofStatements_eq, ofStatements_eq, relocate,
    Declaration.relocate_filterMap_ofStatement? (isNamed_statesOf ss), statesOf_relocate,
    Statement.flatMap_connections_relocate]

/-- The document of the statements of two documents, one after the other. -/
theorem ofStatements_append (ss ss' : List Statement) :
    ofStatements (ss ++ ss') = (ofStatements ss).followedBy (ofStatements ss') := by
  have hnamed := isNamed_statesOf (ss ++ ss')
  rw [statesOf_append] at hnamed
  rw [ofStatements_eq, ofStatements_eq, ofStatements_eq, followedBy, statesOf_append,
    List.filterMap_append, List.flatMap_append, Declaration.restate_append,
    Declaration.restate_filterMap_ofStatement? (isNamed_statesOf ss) hnamed,
    Declaration.restate_filterMap_ofStatement? (isNamed_statesOf ss') hnamed]

end Document

/-- Only the labels of a finding show the spans of the error. -/
theorem SyntaxError.finding_relocate (f : Span → Span) (e : SyntaxError) :
    (e.relocate f).finding = e.finding.relocate f := by
  cases e <;> rfl

theorem Grammar.EndsStatement.relocate {ts : List Lexeme} (f : Span → Span)
    (h : EndsStatement ts) : EndsStatement (ts.map (.relocate f)) := by
  cases h with
  | nil => exact .nil
  | word name span rest => exact .word name _ _
  | brace span rest => exact .brace _ _
  | state s name t u rest => exact .state _ name _ _ _

namespace Statement

variable {ts ts' : List Lexeme} {ss ss' : List Statement} (offset : Nat)

/-- The end of lexemes that are moved behind others is moved with them. -/
theorem stopOf_append (hts' : ts' ≠ []) :
    stopOf (ts ++ ts'.map (.relocate (Span.shift offset))) = (stopOf ts').shift offset := by
  have hlast : (ts ++ ts'.map (Lexeme.relocate (Span.shift offset))).getLast? =
      ts'.getLast?.map (Lexeme.relocate (Span.shift offset)) := by
    rw [List.getLast?_append, List.getLast?_map, List.getLast?_eq_some_getLast hts']
    rfl
  rw [stopOf, stopOf, hlast, List.getLast?_eq_some_getLast hts']
  rfl

/-- The statements of two documents, one behind the other. -/
theorem ofTokens_append_of_ok (h : ofTokens ts = .ok ss) (h' : ofTokens ts' = .ok ss') :
    ofTokens (ts ++ ts'.map (.relocate (Span.shift offset))) =
      .ok (ss ++ ss'.map (relocate (Span.shift offset))) := by
  have hends := Grammar.endsStatement_of_derives (Grammar.derives_of_ofTokens h')
  -- Where reading succeeds, the end of the source plays no part.
  have hstop := readAll_append (stopOf (ts ++ ts'.map (.relocate (Span.shift offset)))) .nil
    ((readAll_relocate (stopOf ts') ts' (Span.shift_union offset)).trans
      (congrArg (relocateOutcome _ _) h'))
  rw [List.append_nil] at hstop
  rw [ofTokens, readAll_append _ (hends.relocate _) h, hstop, readAll]
  simp [Except.map]

/-- An error behind a document. -/
theorem ofTokens_append_of_error {e : SyntaxError} (h : ofTokens ts = .ok ss)
    (hword : ts'.head?.any (·.token.isWord) = true) (h' : ofTokens ts' = .error e) :
    ofTokens (ts ++ ts'.map (.relocate (Span.shift offset))) =
      .error (e.relocate (Span.shift offset)) := by
  obtain ⟨name, span, rest, rfl⟩ : ∃ name span rest, ts' = ⟨.identifier name, span⟩ :: rest := by
    rcases ts' with _ | ⟨⟨t, span⟩, rest⟩
    · cases hword
    · cases t with
      | identifier name => exact ⟨name, span, rest, rfl⟩
      | _ => cases hword
  have hends : Grammar.EndsStatement (⟨.identifier name, span⟩ :: rest) := .word name span rest
  rw [ofTokens, readAll_append _ (hends.relocate _) h, stopOf_append offset (by simp),
    readAll_relocate _ _ (Span.shift_union offset)]
  exact congrArg (fun outcome => (relocateOutcome _ _ outcome).map _) h'

end Statement

namespace Document

/-- What comes of two sources, one after the other, if the first one can be read: the document of
the two if the second one can be read too, and the error of the second one if it starts with a word.
Everything of the second one stands as many bytes further to the right as there are before it. -/
theorem ofSource_append {source : String} {document : Document}
    (h : ofSource source = .ok document) (back : String) :
    let shift := Span.shift (source.utf8ByteSize + 1)
    (∀ next, ofSource back = .ok next →
      ofSource (source ++ "\n" ++ back) = .ok (document.followedBy (next.relocate shift))) ∧
    (∀ e, ofSource back = .error e → (Token.scan back).head?.any (·.token.isWord) = true →
      ∃ e', ofSource (source ++ "\n" ++ back) = .error e' ∧
        e'.finding = e.finding.relocate shift) := by
  intro shift
  obtain ⟨ss, hread, rfl⟩ := ofSource_eq_ok_iff.1 h
  -- A source that can be read leaves no quoted text open, so the tokens of the two do not mix.
  have hscan : Token.scan (source ++ "\n" ++ back) =
      Token.scan source ++ (Token.scan back).map (.relocate shift) :=
    Token.scan_append_newline back
      (Grammar.endsQuoted_of_derives (Grammar.derives_of_ofTokens hread))
  constructor
  · intro next hnext
    obtain ⟨ss', hread', rfl⟩ := ofSource_eq_ok_iff.1 hnext
    have hall := Statement.ofTokens_append_of_ok (source.utf8ByteSize + 1) hread hread'
    rw [ofSource, ofTokens, hscan, hall, ← ofStatements_relocate, ← ofStatements_append]
    rfl
  · intro e he hword
    have hall := Statement.ofTokens_append_of_error (source.utf8ByteSize + 1) hread hword
      (map_eq_error_iff.1 he)
    refine ⟨e.relocate shift, ?_, e.finding_relocate shift⟩
    rw [ofSource, ofTokens, hscan, hall]
    rfl

/-- A state that is declared again in the second source, and an error in the second source. -/
theorem ofSource_append_redeclared :
    ∃ document, ofSource "@s(x: 1)\na @ s" = .ok document ∧
      (∃ next, ofSource "@a()\n@s(x: 2)\nb --> a" = .ok next ∧
        ofSource ("@s(x: 1)\na @ s" ++ "\n" ++ "@a()\n@s(x: 2)\nb --> a") =
          .ok (document.followedBy (next.relocate (Span.shift 15))) ∧
        (document.followedBy (next.relocate (Span.shift 15))).states.entries =
          [("s", ⟨"s", "x:2", ⟨20, 28⟩⟩), ("a", ⟨"a", "", ⟨15, 19⟩⟩)]) ∧
      ∃ e e', ofSource "b :" = .error e ∧
        ofSource ("@s(x: 1)\na @ s" ++ "\n" ++ "b :") = .error e' ∧
        e'.finding = e.finding.relocate (Span.shift 15) ∧
        e'.finding.labels.map Label.span = [⟨17, 18⟩] := by
  have hread : Statement.ofTokens (Token.scan "@s(x: 1)\na @ s") =
      .ok [.state ⟨"s", "x:1", ⟨0, 8⟩⟩, .declaration ⟨"a", none, some "s", ⟨9, 14⟩⟩ none] := by
    decide +kernel
  have hread' : Statement.ofTokens (Token.scan "@a()\n@s(x: 2)\nb --> a") =
      .ok [.state ⟨"a", "", ⟨0, 4⟩⟩, .state ⟨"s", "x:2", ⟨5, 13⟩⟩,
        .connection ⟨"b", .ofText "", "a", .ofText "", "", ⟨14, 21⟩⟩] := by
    decide +kernel
  have herror : Statement.ofTokens (Token.scan "b :") = .error (.missingType "b" ⟨2, 3⟩) := by
    decide +kernel
  have hsource := ofSource_eq_ok_iff.2 ⟨_, hread, rfl⟩
  have hnext := ofSource_eq_ok_iff.2 ⟨_, hread', rfl⟩
  have hbad : ofSource "b :" = .error (.missingType "b" ⟨2, 3⟩) := map_eq_error_iff.2 herror
  obtain ⟨e', he', hfinding⟩ := (ofSource_append hsource "b :").2 _ hbad (by decide +kernel)
  refine ⟨_, hsource, ⟨_, hnext, (ofSource_append hsource _).1 _ hnext, by decide +kernel⟩,
    _, e', hbad, he', hfinding, ?_⟩
  rw [hfinding]
  rfl

end Document

end BoxArrow
