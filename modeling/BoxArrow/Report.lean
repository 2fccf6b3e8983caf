import BoxArrow.Session

/-!
# Reports

What a run shows of a finding or a failure: a message, and for a finding also its code, its
advice, and its labels as ranges of the source.

## Main definitions

* `Report` — what is shown
* `Report.ofFinding`, `Report.ofFailure` — the reports of a finding and of a failure
* `Report.text` — a report as plain lines
-/

namespace BoxArrow

/-- A range of the source with a message. -/
structure ReportLabel where
  message : String
  /-- Offset of the first byte. -/
  offset : Nat
  /-- Number of bytes. -/
  length : Nat
  isPrimary : Bool
  deriving DecidableEq, Repr

/-- What is shown of a finding or a failure. -/
structure Report where
  message : String
  code : Option String
  severity : Option Severity
  advice : Option String
  /-- Whether the source can be shown along with the report. -/
  hasSource : Bool
  /-- The labels, or nothing if there are none. -/
  labels : Option (List ReportLabel)
  deriving DecidableEq, Repr

namespace Report

/-- A label as a range of the source. -/
def label (l : Label) : ReportLabel := ⟨l.message, l.span.start, l.span.length, l.isPrimary⟩

/-- The report of a finding. -/
def ofFinding (finding : Finding) : Report where
  message := finding.message
  code := finding.code.map Code.id
  severity := some finding.severity
  advice := finding.advice
  hasSource := true
  labels := if finding.labels.isEmpty then none else some (finding.labels.map label)

/-- A report without a place in the source. -/
def ofMessage (message : String) (code advice : Option String) : Report :=
  ⟨message, code, none, advice, false, none⟩

/-- The reports of a failure: one for each finding if the source is no diagram, otherwise one. -/
def ofFailure : Failure → List Report
  | .source findings => findings.map ofFinding
  | .file reason => [ofMessage (Failure.file reason).message (some "nagare::io") none]
  | .settings reason =>
    [ofMessage (Failure.settings reason).message (some "nagare::config")
      (some "check the file passed with --config or remove it to use the defaults")]

/-- The lines that a report is shown as: its code and message, its labels and its advice. -/
def lines (report : Report) : List String :=
  (report.code.elim "" (fun code => code ++ ": ") ++ report.message) ::
    (report.labels.getD []).map (fun label =>
      "  at byte " ++ toString label.offset ++ ": " ++ label.message) ++
    report.advice.toList.map ("  help: " ++ ·)

/-- The report as plain text. -/
def text (report : Report) : String := String.intercalate "\n" report.lines

end Report

end BoxArrow
