import HookMigration.Proofs.Program.FixModes

/-!
# Thresholds, listings and exit codes

A scan uses its threshold twice: for the issues that it lists, and for the errors that decide its
exit code.  The summary counts the records once more, by their severity.  All three are read off the
same records and agree at every threshold (`ScanReport.Agrees`), so a scan fails exactly if it lists
an issue.  Threshold and form of output are settings of the listing alone: what is found does not
depend on them (`Workload.scan_listing`).

A report makes one list of errors, which it prints and by which it fails.
-/

namespace HookMigration

/-! ## Records of at least a severity -/

theorem Severity.le_iff_rank_le {a b : Severity} : a ≤ b ↔ a.rank ≤ b.rank := Iff.rfl

/-- Below a threshold there is more, in the same order. -/
theorem atLeast_sublist_atLeast {low high : Severity} (h : low ≤ high) (records : List Record) :
    (atLeast high records).Sublist (atLeast low records) := by
  apply List.monotone_filter_right
  intro record hsevere
  rw [decide_eq_true_iff, Severity.le_iff_rank_le] at hsevere ⊢
  exact Nat.le_trans h hsevere

theorem atLeast_info (records : List Record) : atLeast .info records = records := by
  apply List.filter_eq_self.2
  intro record _
  exact decide_eq_true (Nat.zero_le record.severity.rank)

/-- How many of the counted records a threshold leaves. -/
def Summary.shown (s : Summary) : Severity → Nat
  | .error => s.errors
  | .warning => s.errors + s.warnings
  | .info => s.errors + s.warnings + s.infos

theorem Summary.shown_cons (threshold : Severity) (record : Record) (rest : List Record)
    (files : Nat) : (ofRecords (record :: rest) files).shown threshold =
      (ofRecords rest files).shown threshold + if threshold ≤ record.severity then 1 else 0 := by
  simp only [Severity.le_iff_rank_le]
  cases threshold <;> cases hseverity : record.severity <;>
    simp [shown, ofRecords, hseverity, Severity.rank] <;> omega

theorem Summary.shown_ofRecords (threshold : Severity) (records : List Record) (files : Nat) :
    (ofRecords records files).shown threshold = (atLeast threshold records).length := by
  induction records with
  | nil => cases threshold <;> rfl
  | cons record rest ih =>
      rw [shown_cons, ih]
      unfold atLeast
      rw [List.filter_cons]
      by_cases h : threshold ≤ record.severity
      · simp [h]
      · simp [h]

/-! ## The listings of a scan -/

/-- An issue and an error describe a record.  Where the file of the record is not known, the file of
the issue is empty. -/
structure Record.Describes (record : Record) (issue : Issue) (error : ReportedError) : Prop where
  line : issue.line = record.location.line ∧ error.line = record.location.line
  column : issue.column = record.location.column ∧ error.column = record.location.column
  message : issue.message = record.message ∧ error.text = record.message
  file : issue.file = record.location.file.getD "" ∧ error.location = record.location
  rule : issue.rule = record.ruleId
  severity : issue.severity = record.severity
  change : issue.matched = record.matchedText ∧ issue.replacement = record.suggestedReplacement

/-- The issues, the errors and the summary of a scan agree at every threshold. -/
structure ScanReport.Agrees (s : ScanReport) : Prop where
  same_records : ∀ (threshold : Severity) (i : Nat) (record : Record),
    (s.records.filter fun r => threshold ≤ r.severity)[i]? = some record →
      ∃ issue error, (s.result threshold).issues[i]? = some issue ∧
        (s.errors threshold)[i]? = some error ∧ record.Describes issue error
  same_length : ∀ threshold,
    (s.result threshold).issues.length =
        (s.records.filter fun r => threshold ≤ r.severity).length ∧
      (s.errors threshold).length = (s.result threshold).issues.length
  more_below : ∀ low high, low ≤ high →
    (s.result high).issues.Sublist (s.result low).issues ∧
      (s.errors high).Sublist (s.errors low)
  all_at_info : (s.records.filter fun r => .info ≤ r.severity) = s.records
  same_summary : ∀ threshold, (s.result threshold).summary = .ofRecords s.records s.files
  shown : ∀ threshold,
    (s.result threshold).summary.shown threshold = (s.result threshold).issues.length
  total : ∀ threshold,
    (s.result threshold).summary.errors + (s.result threshold).summary.warnings +
      (s.result threshold).summary.infos = s.records.length

theorem ScanReport.agrees (s : ScanReport) : s.Agrees where
  same_records := by
    intro threshold i record h
    have hissue : (s.result threshold).issues[i]? = some record.issue := by
      show ((atLeast threshold s.records).map Record.issue)[i]? = some record.issue
      rw [List.getElem?_map, atLeast, h, Option.map_some]
    have herror : (s.errors threshold)[i]? = some record.reported := by
      show ((atLeast threshold s.records).map Record.reported)[i]? = some record.reported
      rw [List.getElem?_map, atLeast, h, Option.map_some]
    exact ⟨record.issue, record.reported, hissue, herror,
      ⟨⟨rfl, rfl⟩, ⟨rfl, rfl⟩, ⟨rfl, rfl⟩, ⟨rfl, rfl⟩, rfl, rfl, ⟨rfl, rfl⟩⟩⟩
  same_length := by
    intro threshold
    unfold result errors report
    rw [List.length_map, List.length_map]
    exact ⟨rfl, rfl⟩
  more_below := by
    intro low high h
    have hrecords := atLeast_sublist_atLeast h s.records
    exact ⟨hrecords.map Record.issue, hrecords.map Record.reported⟩
  all_at_info := atLeast_info s.records
  same_summary := fun _ => rfl
  shown := by
    intro threshold
    show (Summary.ofRecords s.records s.files).shown threshold =
      (s.result threshold).issues.length
    rw [Summary.shown_ofRecords, result, List.length_map]
  total := by
    intro threshold
    show (Summary.ofRecords s.records s.files).shown .info = s.records.length
    rw [Summary.shown_ofRecords, atLeast_info]

theorem ScanReport.errors_eq_nil_iff (s : ScanReport) (threshold : Severity) :
    s.errors threshold = [] ↔ (s.result threshold).issues = [] := by
  rw [← List.length_eq_zero_iff, (s.agrees.same_length threshold).2, List.length_eq_zero_iff]

/-! ## Runs of a scan -/

variable {e : Effective} {t : FileTree}

/-- The exit code of a run that fails exactly if a list has anything in it. -/
theorem exitCode_iff {α : Type} {l : List α} {code : Nat}
    (h : code = if l.isEmpty then 0 else 1) : (code = 1 ↔ l ≠ []) ∧ (code = 0 ↔ l = []) := by
  rw [h]
  cases l <;> simp

/-- The same settings with another threshold and another form of output. -/
def Effective.listing (e : Effective) (threshold : Severity) (output : String) : Effective :=
  { e with minSeverity := threshold, output := output }

namespace Workload

variable [PatternEngine] [Decoders]

/-- What a scan finds. -/
def found (w : Workload e t) : ScanReport :=
  ⟨w.sources.length, w.rules.scanSources (w.sources.map Prod.snd)⟩

theorem scan_eq_found (w : Workload e t) :
    t.scan e.repoRoot w.rules e.patterns = .ok w.found := by
  unfold FileTree.scan
  rw [w.targets_eq, found, ← List.length_map Prod.snd]
  rfl

/-- A run of a scan at any threshold and in any form. -/
theorem scan_listing (w : Workload e t) (threshold : Severity) (output : String) :
    (e.listing threshold output).scan t =
      ⟨if (w.found.errors threshold).isEmpty then 0 else 1,
        e.remarks t ++ (.ofLog w.file.events ++ (skippedTranscript w.file.compile.2 ++
          (t.scanLog e.repoRoot w.rules e.patterns ++
            (w.found.result threshold).transcript output))), t⟩ := by
  have hload : HookFile.load t (e.listing threshold output).rulesPath = .ok w.file := w.load_eq
  have hfound : t.scan (e.listing threshold output).repoRoot w.file.compile.1
      (e.listing threshold output).patterns = .ok w.found := w.scan_eq_found
  unfold Effective.scan Effective.warningOfSkipped Effective.withRules
  rw [hload]
  simp only [hfound]
  rfl

/-- A scan fails exactly if it lists an issue. -/
theorem exitCode_scan (w : Workload e t) (threshold : Severity) (output : String) :
    let code := ((e.listing threshold output).scan t).exitCode
    (code = 1 ↔ (w.found.result threshold).issues ≠ []) ∧
      (code = 0 ↔ (w.found.result threshold).issues = []) := by
  rw [Ne, ← w.found.errors_eq_nil_iff]
  apply exitCode_iff
  rw [w.scan_listing threshold output]

end Workload

/-- Without a workload there is nothing that could be scanned. -/
theorem Effective.scan_of_isEmpty [PatternEngine] [Decoders] (h : IsEmpty (Workload e t)) :
    (e.scan t).exitCode = 2 := by
  unfold scan warningOfSkipped withRules FileTree.scan
  cases hload : HookFile.load t e.rulesPath with
  | error => rfl
  | ok file =>
      cases htargets : t.targets e.repoRoot e.patterns with
      | error => rfl
      | ok targets => exact (h.false ⟨file, targets, hload, htargets⟩).elim

/-! ## Runs of a report -/

/-- What a report works on: the hook file and the diagnostics that it loads. -/
structure Reporting [Decoders] (e : Effective) (t : FileTree) (path : String) where
  file : HookFile
  diagnostics : List Diagnostic
  load_eq : HookFile.load t e.rulesPath = .ok file
  diagnostics_eq : Diagnostic.load t (Path.join e.repoRoot path) = .ok diagnostics

namespace Reporting

variable [PatternEngine] [Decoders] {path : String}

/-- The errors of a report at a threshold. -/
def errors (r : Reporting e t path) (threshold : Severity) : List ReportedError :=
  report (r.file.compile.1.recordsOf r.diagnostics) threshold

theorem report_listing (r : Reporting e t path) (threshold : Severity) (output : String) :
    (e.listing threshold output).report t path =
      ⟨if (r.errors threshold).isEmpty then 0 else 1,
        e.remarks t ++ (.ofLog r.file.events ++ (skippedTranscript r.file.compile.2 ++
          reportTranscript (r.errors threshold) output)), t⟩ := by
  have hload : HookFile.load t (e.listing threshold output).rulesPath = .ok r.file := r.load_eq
  have hfound : Diagnostic.load t (Path.join (e.listing threshold output).repoRoot path) =
      .ok r.diagnostics := r.diagnostics_eq
  unfold Effective.report Effective.warningOfSkipped Effective.withRules
  rw [hload]
  simp only [hfound]
  rfl

theorem exitCode_report (r : Reporting e t path) (threshold : Severity) (output : String) :
    let code := ((e.listing threshold output).report t path).exitCode
    (code = 1 ↔ r.errors threshold ≠ []) ∧ (code = 0 ↔ r.errors threshold = []) := by
  apply exitCode_iff
  rw [r.report_listing threshold output]

end Reporting

theorem Effective.report_of_isEmpty [PatternEngine] [Decoders] {path : String}
    (h : IsEmpty (Reporting e t path)) : (e.report t path).exitCode = 2 := by
  unfold report warningOfSkipped withRules
  cases hload : HookFile.load t e.rulesPath with
  | error => rfl
  | ok file =>
      cases hfound : Diagnostic.load t (Path.join e.repoRoot path) with
      | error => rfl
      | ok diagnostics => exact (h.false ⟨file, diagnostics, hload, hfound⟩).elim

/-! ## Command lines -/

/-- What a command line says about everything but threshold and form of output. -/
def Overrides.withoutListing (o : Overrides) : Overrides :=
  { o with minSeverity := none, output := none }

/-- Threshold and form of output change no other setting. -/
theorem Config.resolve_eq_listing [Decoders] (t : FileTree) (o : Overrides) :
    let e := resolve t o.withoutListing
    resolve t o = e.listing (o.minSeverity.getD e.minSeverity) (o.output.getD e.output) := by
  cases hseverity : o.minSeverity <;> cases houtput : o.output <;>
    simp [resolve, merge, Overrides.withoutListing, Effective.listing, hseverity, houtput]

/-- Thresholds, listings and exit codes agree.

* The issues and the errors of a scan describe the records of at least the threshold, one by one and
  in their order.  A lower threshold only adds to them, `info` leaves all records, and the summary is
  the same at every threshold and counts what each of them leaves.
* A scan whose rules and patterns load prints this listing in either form, behind what loading and
  scanning log, and fails exactly if it has an issue; any other scan cannot be done.
* A report prints its errors, and fails exactly if there are any.
* Command lines that differ in threshold and form of output alone scan, and report on, the same. -/
theorem thresholds_agree [PatternEngine] [Decoders] (t : FileTree) :
    (∀ s : ScanReport, s.Agrees) ∧
    (∀ (e : Effective) (w : Workload e t), t.scan e.repoRoot w.rules e.patterns = .ok w.found ∧
      ∀ threshold output,
        let listed := (w.found.result threshold).issues
        let o := (e.listing threshold output).scan t
        (o.exitCode = 1 ↔ listed ≠ []) ∧ (o.exitCode = 0 ↔ listed = []) ∧
          o.printed = e.remarks t ++ (.ofLog w.file.events ++
            (skippedTranscript w.file.compile.2 ++ (t.scanLog e.repoRoot w.rules e.patterns ++
              (w.found.result threshold).transcript output)))) ∧
    (∀ e : Effective, IsEmpty (Workload e t) → (e.scan t).exitCode = 2) ∧
    (∀ (e : Effective) path (r : Reporting e t path) threshold output,
      let listed := r.errors threshold
      let o := (e.listing threshold output).report t path
      (o.exitCode = 1 ↔ listed ≠ []) ∧ (o.exitCode = 0 ↔ listed = []) ∧
        o.printed = e.remarks t ++ (.ofLog r.file.events ++
          (skippedTranscript r.file.compile.2 ++ reportTranscript listed output))) ∧
    (∀ (e : Effective) path, IsEmpty (Reporting e t path) → (e.report t path).exitCode = 2) ∧
    ∀ common severity,
      (∀ patterns,
        let c := Command.scan common patterns severity
        let e := Config.resolve t c.overrides.withoutListing
        c.run t = .after (.ofLog (Config.loadEvents t e.repoRoot))
          ((e.listing (severity.getD e.minSeverity) (common.output.getD e.output)).scan t)) ∧
      ∀ path,
        let c := Command.report common path severity
        let e := Config.resolve t c.overrides.withoutListing
        c.run t = .after (.ofLog (Config.loadEvents t e.repoRoot))
          ((e.listing (severity.getD e.minSeverity) (common.output.getD e.output)).report t
            path) := by
  refine ⟨ScanReport.agrees, ?_, fun e => e.scan_of_isEmpty, ?_,
    fun e path => e.report_of_isEmpty, ?_⟩
  · intro e w
    refine ⟨w.scan_eq_found, ?_⟩
    intro threshold output
    obtain ⟨hfails, hpasses⟩ := w.exitCode_scan threshold output
    exact ⟨hfails, hpasses, by rw [w.scan_listing threshold output]⟩
  · intro e path r threshold output
    obtain ⟨hfails, hpasses⟩ := r.exitCode_report threshold output
    exact ⟨hfails, hpasses, by rw [r.report_listing threshold output]⟩
  · intro common severity
    constructor
    · intro patterns c e
      show c.withSettings t (fun e => e.scan t) = _
      unfold Command.withSettings
      rw [Config.resolve_eq_listing]
      rfl
    · intro path c e
      show c.withSettings t (fun e => e.report t path) = _
      unfold Command.withSettings
      rw [Config.resolve_eq_listing]
      rfl

/-- A folder with a hook that is only a remark, a file with one call of it, and one warning from
outside. -/
def remarkTree : FileTree where
  files := [
    (["hooks.json"],
      "[\x7b\"old\": \"Foo(int a)\", \"new\": \"Foo(long a)\", \"severity\": \"info\"\x7d]".toUTF8),
    (["a.cs"], "void Foo(int b)".toUTF8),
    (["found.json"],
      "[\x7b\"id\": \"X\", \"severity\": \"warning\", \"line\": 0, \"column\": 0\x7d]".toUTF8)]
  folders := []
  home := []

section Plain

attribute [local instance] PatternEngine.usual Decoders.plain

/-- What a scan of that folder works on. -/
def remarkWorkload : Workload smallFix remarkTree where
  file := ⟨[{ HookEntry.ofSignatures "Foo(int a)" (some "Foo(long a)") with
    severity := some .info }], []⟩
  targets := [⟨[.name "a.cs"], ["a.cs"]⟩]
  load_eq := by decide +kernel
  targets_eq := by decide +kernel

/-- What a report on that folder works on. -/
def remarkReporting : Reporting smallFix remarkTree "found.json" where
  file := remarkWorkload.file
  diagnostics := [⟨"X", none, .warning, "", ⟨none, 0, 0⟩⟩]
  load_eq := remarkWorkload.load_eq
  diagnostics_eq := by decide +kernel

/-- The scan and the report each fail at one threshold and pass at the next one, and a scan without
a hook file cannot be done. -/
theorem thresholds_agree_remark :
    ((smallFix.listing .info "human").scan remarkTree).exitCode = 1 ∧
      ((smallFix.listing .warning "json").scan remarkTree).exitCode = 0 ∧
      ((smallFix.listing .warning "human").report remarkTree "found.json").exitCode = 1 ∧
      ((smallFix.listing .error "json").report remarkTree "found.json").exitCode = 0 ∧
      (Effective.scan { smallFix with rules := "none.json" } remarkTree).exitCode = 2 := by
  obtain ⟨-, hscan, hnone, hreport, -⟩ := thresholds_agree remarkTree
  obtain ⟨-, hscan⟩ := hscan smallFix remarkWorkload
  have hreport := hreport smallFix "found.json" remarkReporting
  have hrecords : remarkWorkload.found.records.map Record.severity = [.info] := by
    have hall : (remarkWorkload.rules.rules.flatMap fun r =>
        r.records (some "a.cs") "void Foo(int b)").map Record.severity = [.info] := by
      decide +kernel
    have hsources : remarkWorkload.sources.map Prod.snd = [⟨"a.cs", "void Foo(int b)"⟩] := by
      decide +kernel
    obtain ⟨record, hrecord, hseverity⟩ := List.map_eq_singleton_iff.1 hall
    unfold Workload.found RuleSet.scanSources RuleSet.scan
    rw [hsources, List.flatMap_singleton, hrecord, List.mergeSort_singleton]
    exact congrArg (fun severity => [severity]) hseverity
  obtain ⟨record, hrecord, hseverity⟩ := List.map_eq_singleton_iff.1 hrecords
  refine ⟨(hscan .info "human").1.2 ?_, (hscan .warning "json").2.1.2 ?_,
    (hreport .warning "human").1.2 (by decide +kernel),
    (hreport .error "json").2.1.2 (by decide +kernel), hnone _ ⟨fun w => ?_⟩⟩
  · simp [ScanReport.result, atLeast_info, hrecord]
  · simp [ScanReport.result, atLeast, hrecord, hseverity, Severity.le_iff_rank_le, Severity.rank]
  · have hload : (HookFile.load remarkTree "./none.json").isOk = false := by decide +kernel
    have hrules : Effective.rulesPath { smallFix with rules := "none.json" } = "./none.json" := by
      decide +kernel
    rw [← hrules, w.load_eq] at hload
    cases hload

end Plain

end HookMigration
