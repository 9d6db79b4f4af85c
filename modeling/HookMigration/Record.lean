import HookMigration.Number.Word
import HookMigration.Severity

/-!
# Findings

A `Record` is one finding, be it a match in a text or a diagnostic from outside.  A report turns the
records of a sufficient severity into `ReportedError`s, a scan lists them as `Issue`s; both keep the
order of the records.
-/

namespace HookMigration

/-- A place in a source, with line and column counted from zero. -/
structure Location where
  file : Option String
  line : Nat
  column : Nat
  deriving DecidableEq, Repr

/-- A place as a user reads it, with line and column counted from one. -/
def Location.display (l : Location) : String :=
  let place := toString (Word.next l.line) ++ ":" ++ toString (Word.next l.column)
  match l.file with
  | some file => file ++ ":" ++ place
  | none => place

/-- A range of bytes. -/
structure Span where
  start : Nat
  stop : Nat
  deriving DecidableEq, Repr

/-- One finding.  Only a match in a text has a span, a text and a replacement. -/
structure Record where
  ruleId : String
  span : Option Span
  location : Location
  matchedText : Option String
  suggestedReplacement : Option String
  message : String
  severity : Severity
  deriving DecidableEq, Repr

/-- Where the span of a record begins; a record without one counts as standing at the beginning. -/
def Record.offset (r : Record) : Nat :=
  (r.span.map Span.start).getD 0

/-- A finding as a report shows it. -/
structure ReportedError where
  line : Nat
  column : Nat
  text : String
  location : Location
  deriving DecidableEq, Repr

/-- A finding as a scan lists it; `file` is empty where it is not known. -/
structure Issue where
  file : String
  rule : String
  severity : Severity
  line : Nat
  column : Nat
  message : String
  matched : Option String
  replacement : Option String
  deriving DecidableEq, Repr

/-- A record as a listed issue. -/
def Record.issue (r : Record) : Issue where
  file := r.location.file.getD ""
  rule := r.ruleId
  severity := r.severity
  line := r.location.line
  column := r.location.column
  message := r.message
  matched := r.matchedText
  replacement := r.suggestedReplacement

/-- A record as a reported error. -/
def Record.reported (r : Record) : ReportedError where
  line := r.location.line
  column := r.location.column
  text := r.message
  location := r.location

/-- The records of at least a severity. -/
def atLeast (threshold : Severity) (records : List Record) : List Record :=
  records.filter fun r => threshold ≤ r.severity

/-- The report of records at a severity. -/
def report (records : List Record) (threshold : Severity) : List ReportedError :=
  (atLeast threshold records).map Record.reported

/-- How many records there are of each severity, and how many files were looked at. -/
structure Summary where
  errors : Nat
  warnings : Nat
  infos : Nat
  files : Nat
  deriving DecidableEq, Repr

/-- The summary of records found in a number of files. -/
def Summary.ofRecords (records : List Record) (files : Nat) : Summary where
  errors := records.countP (·.severity = .error)
  warnings := records.countP (·.severity = .warning)
  infos := records.countP (·.severity = .info)
  files := files

/-- What a scan shows: the issues of at least a severity, and the summary of all records. -/
structure ScanResult where
  issues : List Issue
  summary : Summary
  deriving DecidableEq, Repr

/-- All records of a scan, and the number of files they come from. -/
structure ScanReport where
  files : Nat
  records : List Record
  deriving DecidableEq, Repr

namespace ScanReport

/-- What a scan shows at a severity. -/
def result (s : ScanReport) (threshold : Severity) : ScanResult where
  issues := (atLeast threshold s.records).map Record.issue
  summary := .ofRecords s.records s.files

/-- The report of a scan at a severity. -/
def errors (s : ScanReport) (threshold : Severity) : List ReportedError :=
  report s.records threshold

end ScanReport

end HookMigration
