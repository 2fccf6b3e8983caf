import BoxArrow.Proofs.Document.Slices
import BoxArrow.Proofs.Grammar.Errors
import BoxArrow.Proofs.Grammar.Tentative
import BoxArrow.Proofs.Layout.Warnings
import BoxArrow.Report

/-!
# Findings about a source

Whatever a source is, what is found about it can be shown. A source that is no diagram has one
finding, which a reader has settled on for good, and it points to a lexeme or behind the last one. A
source that is a diagram has warnings, each of which points to a state declaration or a connection.

## Main definitions

* `Label.IsShownIn` — a label can be shown along with a source
* `Finding.IsOfGrammar`, `Finding.IsOfLayout` — the findings of the two kinds

## Main results

* `Planner.findings_compile` — the findings about a source
-/

namespace BoxArrow

open Lexeme (AreOrdered)

/-- A label can be shown along with a source: its span lies in the source, and it is reported with
the offset and the length of its span. -/
structure Label.IsShownIn (source : String) (l : Label) : Prop where
  start_le_stop : l.span.start ≤ l.span.stop
  stop_le : l.span.stop ≤ source.utf8ByteSize
  /-- The length is the distance from the start to the stop, and not cut off at zero. -/
  offset_add_length : (Report.label l).offset = l.span.start ∧
    (Report.label l).offset + (Report.label l).length = l.span.stop

/-- The finding about a source that is no diagram. Its primary label is at a lexeme or behind the
last one, and it may have a second label at a bracket that stands before the first. -/
structure Finding.IsOfGrammar (source : String) (finding : Finding) : Prop where
  severity : finding.severity = .error
  code : ∃ code, finding.code = some code ∧
    code.id ∈ ["E100", "E101", "E102", "E103", "E104", "E105", "E106", "E107", "E108", "E109"]
  labels : ∃ primary, ∃ related : Option Label, finding.labels = primary :: related.toList ∧
    primary.isPrimary = true ∧
    ((∃ l ∈ Token.scan source, l.span = primary.span) ∨
      ∃ last, (Token.scan source).getLast? = some last ∧
        primary.span = .point last.span.stop) ∧
    ∀ secondary ∈ related, secondary.isPrimary = false ∧
      ∃ l ∈ Token.scan source, (l.token = .leftBrace ∨ l.token = .leftParen) ∧
        l.span = secondary.span ∧ l.span.stop ≤ primary.span.start
  isShownIn : ∀ l ∈ finding.labels, l.IsShownIn source

/-- A finding about a part that a layout leaves out. Its only label is at a state declaration or at
a connection. -/
structure Finding.IsOfLayout (source : String) (document : Document) (finding : Finding) :
    Prop where
  severity : finding.severity = .warning
  code : ∃ code, finding.code = some code ∧ code.id ∈ ["E200", "E201", "E202", "E203", "E204"]
  labels : ∃ label, finding.labels = [label] ∧ label.isPrimary = true ∧
    document.HasAt label.span
  isShownIn : ∀ l ∈ finding.labels, l.IsShownIn source

theorem Label.IsShownIn.of_le {source : String} {l : Label} (hstart : l.span.start ≤ l.span.stop)
    (hstop : l.span.stop ≤ source.utf8ByteSize) : l.IsShownIn source where
  start_le_stop := hstart
  stop_le := hstop
  offset_add_length := ⟨rfl, Nat.add_sub_cancel' hstart⟩

/-! ### Errors of the grammar -/

namespace SyntaxError

variable {source : String} {e : SyntaxError}

theorem id_code_mem (e : SyntaxError) : e.code.id ∈
    ["E100", "E101", "E102", "E103", "E104", "E105", "E106", "E107", "E108", "E109"] := by
  cases e <;> simp [code, Code.id]

/-- If there is an error, there is a lexeme, and the error is at one of them or behind the last. -/
theorem IsPlacedIn.mem_or_eq_point {ls : List Lexeme} (hne : ls ≠ [])
    (h : e.IsPlacedIn (Statement.stopOf ls) ls) :
    (∃ l ∈ ls, l.span = e.place) ∨
      ∃ last, ls.getLast? = some last ∧ e.place = .point last.span.stop := by
  rcases h.place with hstop | hmem
  · refine .inr ⟨ls.getLast hne, List.getLast?_eq_some_getLast hne, ?_⟩
    rw [hstop, Statement.stopOf, List.getLast?_eq_some_getLast hne]
    rfl
  · exact .inl hmem

/-- A bracket that was open stops before the error starts. -/
theorem IsPlacedIn.stop_le_start {ls : List Lexeme} (hordered : AreOrdered ls)
    (h : e.IsPlacedIn (Statement.stopOf ls) ls) {o : Span × String} (ho : o ∈ e.opened?) :
    ∃ l ∈ ls, (l.token = .leftBrace ∨ l.token = .leftParen) ∧ l.span = o.1 ∧
      l.span.stop ≤ e.place.start := by
  obtain ⟨l, hl, hbracket, hopened, hplace⟩ := h.opened o ho
  refine ⟨l, hl, hbracket, hopened, ?_⟩
  rcases hplace with hstop | ⟨l', hpair, hspan⟩
  · have hlast := List.getLast?_eq_some_getLast (List.ne_nil_of_mem hl)
    rw [hstop, Statement.stopOf, hlast]
    exact hordered.stop_le_of_getLast? hl hlast
  · rw [← hspan]
    exact List.rel_of_pairwise_cons (hordered.pairwise.sublist hpair) List.mem_cons_self

theorem IsPlacedIn.isOfGrammar
    (h : e.IsPlacedIn (Statement.stopOf (Token.scan source)) (Token.scan source))
    (hne : Token.scan source ≠ []) : e.finding.IsOfGrammar source := by
  have hordered := Lexeme.areOrdered_scan source
  have hplace := h.mem_or_eq_point hne
  -- Every place is that of a lexeme or the end of the last one, and so lies in the source.
  have hshown {l : Lexeme} (hl : l ∈ Token.scan source) {label : Label}
      (hspan : l.span = label.span) : label.IsShownIn source :=
    .of_le (hspan ▸ hordered.start_le_stop l hl) (hspan ▸ Lexeme.stop_le_of_mem_scan hl)
  refine ⟨rfl, ⟨e.code, rfl, e.id_code_mem⟩, ⟨⟨e.place, e.remark, true⟩,
    e.opened?.map fun o => ⟨o.1, o.2, false⟩, rfl, rfl, hplace, ?_⟩, ?_⟩
  · intro secondary hsecondary
    obtain ⟨o, ho, rfl⟩ := Option.map_eq_some_iff.1 hsecondary
    exact ⟨rfl, h.stop_le_start hordered ho⟩
  · intro label hlabel
    rcases List.mem_cons.1 hlabel with rfl | hlabel
    · rcases hplace with ⟨l, hl, hspan⟩ | ⟨last, hlast, hspan⟩
      · exact hshown hl hspan
      · refine .of_le ?_ ?_
        · rw [hspan]
          exact Nat.le_refl _
        · rw [hspan]
          exact Lexeme.stop_le_of_mem_scan (List.mem_of_getLast? hlast)
    · obtain ⟨o, ho, rfl⟩ := Option.map_eq_some_iff.1 (Option.mem_toList.1 hlabel)
      obtain ⟨l, hl, -, hspan, -⟩ := h.stop_le_start hordered ho
      exact hshown hl hspan

end SyntaxError

/-! ### Warnings of the layout -/

theorem Warning.id_code_mem (w : Warning) :
    w.code.id ∈ ["E200", "E201", "E202", "E203", "E204"] := by
  cases w <;> simp [code, Code.id]

namespace Document

variable {source : String} {document : Document} {place : Span}

/-- The state declarations and connections of a document stand in its source. -/
theorem HasAt.exists_covers (hsource : ofSource source = .ok document)
    (h : document.HasAt place) : ∃ text, place.Covers source text := by
  obtain ⟨ss, hread, rfl⟩ := ofSource_eq_ok_iff.1 hsource
  rw [ofStatements_eq] at h
  rcases h with ⟨s, hs, rfl⟩ | ⟨c, hc, rfl⟩
  · obtain ⟨text, _, hcovers, -⟩ := exists_slice_state hread (mem_of_mem_values_statesOf hs)
    exact ⟨text, hcovers⟩
  · obtain ⟨text, _, hcovers, -⟩ := exists_slice_connection hread hc
    exact ⟨text, hcovers⟩

end Document

namespace Planner

theorem isOfLayout_of_mem_warnings (planner : Planner) {source : String} {document : Document}
    (hsource : Document.ofSource source = .ok document) {w : Warning}
    (hw : w ∈ (planner.plan document).warnings) : w.finding.IsOfLayout source document := by
  obtain ⟨ss, -, rfl⟩ := Document.ofSource_eq_ok_iff.1 hsource
  have hstates : ∀ d, (Document.ofStatements ss).Contains d →
      d.HasStatesOf (Document.ofStatements ss).states := by
    intro d hd
    have hstates := hd.hasStatesOf
    rw [Document.ofStatements_eq]
    exact hstates
  have hplace := hasAt_of_mem_warnings hstates hw
  obtain ⟨text, hcovers⟩ := hplace.exists_covers hsource
  refine ⟨rfl, ⟨w.code, rfl, w.id_code_mem⟩, ⟨⟨w.place, w.remark, true⟩, rfl, rfl, hplace⟩, ?_⟩
  intro label hlabel
  cases List.mem_singleton.1 hlabel
  exact .of_le hcovers.start_le_stop hcovers.stop_le

/-- What is found about a source can be shown. If it is no diagram, there is one finding, of the
error that a reader with a way back has settled on, and none that such a reader keeps ready for
turning back. If it is one, all findings are warnings, about parts of the document. -/
theorem findings_compile (planner : Planner) (source : String) :
    match (planner.compile source).mapError Failure.ofSyntaxError with
    | .error failure => ∃ e : SyntaxError,
        Tentative.statements (Statement.stopOf (Token.scan source)) (Token.scan source) =
          .error (.failed e) ∧
        (∀ left, failure = .source [Halt.finding (Token.scan source) left (.failed e)]) ∧
        e.finding.IsOfGrammar source
    | .ok layout => ∃ document, Document.ofSource source = .ok document ∧
        ∀ w ∈ layout.warnings, w.finding.IsOfLayout source document := by
  unfold compile
  cases hsource : Document.ofSource source with
  | error e =>
    have hread : Statement.ofTokens (Token.scan source) = .error e := map_eq_error_iff.1 hsource
    refine ⟨e, ?_, fun _ => rfl, ?_⟩
    · rw [Tentative.statements_eq, hread]
      rfl
    · refine (Grammar.isPlacedIn_of_readAll hread).isOfGrammar fun hnil => ?_
      -- Without lexemes there is nothing to read and no error.
      rw [hnil, Statement.ofTokens, Statement.readAll] at hread
      cases hread
  | ok document => exact ⟨document, rfl, fun w hw => planner.isOfLayout_of_mem_warnings hsource hw⟩

end Planner

end BoxArrow
