import HookMigration.Proofs.Files.Fixing
import HookMigration.Proofs.RuleSet.Turns

/-!
# A clean scan and an idle fix

A scan and a fix of the same files are two runs, and each reads and filters the files on its own.
They agree on what is there: a fix that does not write gives one result for each file that the scan
counts, and the result says that nothing is to be replaced exactly if the scan has found nothing in
this file that a rule of the fix would replace (`scan_clean_iff_fix_idle`).
-/

namespace HookMigration

namespace FileTree

variable {t : FileTree} {root : String} {rules : RuleSet} {patterns : List String}

/-- The texts that a run over patterns works on. -/
def sourcesOf (t : FileTree) (root : String) (patterns : List String) :
    Except Glob.PatternError (List Source) :=
  (t.targets root patterns).map fun targets => (t.sources root targets).map Prod.snd

/-- The records of a scan, source by source. -/
theorem scan_eq (t : FileTree) (root : String) (rules : RuleSet) (patterns : List String) :
    t.scan root rules patterns = (t.sourcesOf root patterns).map fun sources =>
      ⟨sources.length,
        sources.flatMap fun source => rules.scan source.text (some source.name)⟩ := by
  unfold scan sourcesOf
  cases t.targets root patterns <;> rfl

/-- The results of a fix that does not write, source by source. -/
theorem fix_eq_of_not_write (t : FileTree) (root : String) (rules : RuleSet)
    (patterns : List String) (keepsBefore strip : Bool) :
    t.fix root rules patterns ⟨false, keepsBefore, strip⟩ =
      (t.sourcesOf root patterns).map fun sources =>
        (FixResult.sorted (sources.map (.ofSource rules ⟨false, keepsBefore, strip⟩)), t) := by
  rw [fix_eq, sourcesOf]
  cases t.targets root patterns with
  | error e => rfl
  | ok targets =>
      simp only [Except.map, List.map_map, Bool.false_eq_true, if_false]
      rfl

end FileTree

/-! ## Results and records -/

section Results

variable {s : RuleSet} {mode : FixMode} {sources : List Source} {results : List FixResult}

/-- The result for a source and the records in it. -/
theorem FixResult.replacements_ofSource_eq_zero_iff (hs : s.Indexed)
    (mode : FixMode) (source : Source) :
    (ofSource s mode source).replacements = 0 ↔
      ∀ record ∈ s.scan source.text (some source.name),
        s.isEligibleRecord mode.strip record = false :=
  RuleSet.fix_replacements_eq_zero_iff hs source.text (some source.name) mode.strip

/-- Where files have names of their own, the records of a file are those with its name. -/
theorem RuleSet.records_of_source (hnames : (sources.map Source.name).Nodup) {source : Source}
    (hsource : source ∈ sources) {record : Record} :
    record ∈ s.scan source.text (some source.name) ↔
      record ∈ (sources.flatMap fun source => s.scan source.text (some source.name)) ∧
        record.location.file = some source.name := by
  constructor
  · intro hrecord
    exact ⟨List.mem_flatMap.2 ⟨source, hsource, hrecord⟩, file_of_mem_scan hrecord⟩
  · rintro ⟨hrecord, hfile⟩
    obtain ⟨other, hother, hrecord⟩ := List.mem_flatMap.1 hrecord
    rw [file_of_mem_scan hrecord] at hfile
    have hsame : other = source :=
      List.inj_on_of_nodup_map hnames hother hsource (Option.some.inj hfile)
    rwa [hsame] at hrecord

/-- The result of a file and the records with its name. -/
theorem FixResult.replacements_eq_zero_iff (hs : s.Indexed)
    (hnames : (sources.map Source.name).Nodup)
    (hperm : results.Perm (sources.map (ofSource s mode))) {result : FixResult}
    (hresult : result ∈ results) :
    result.replacements = 0 ↔
      ∀ record ∈ sources.flatMap (fun source => s.scan source.text (some source.name)),
        record.location.file = some result.file →
          s.isEligibleRecord mode.strip record = false := by
  obtain ⟨source, hsource, rfl⟩ := List.mem_map.1 (hperm.mem_iff.1 hresult)
  have hfile : (ofSource s mode source).file = source.name := rfl
  rw [replacements_ofSource_eq_zero_iff hs, hfile]
  constructor
  · intro h record hrecord hname
    exact h record ((RuleSet.records_of_source hnames hsource).2 ⟨hrecord, hname⟩)
  · intro h record hrecord
    obtain ⟨hrecord, hname⟩ := (RuleSet.records_of_source hnames hsource).1 hrecord
    exact h record hrecord hname

end Results

/-- A scan is clean exactly if a fix has nothing to do.

* In a text, a fix counts the records that each rule which takes part finds on the text left by the
  rules before it.  To pass over a rule without records is to rewrite with it.  Nothing is counted
  exactly if the scan of the text has no record of a rule that takes part; then the text stays as it
  is, and if the text changes, something is counted.
* Over files, a fix that does not write refuses the patterns that a scan refuses.  Otherwise both
  work on the same sources: the scan counts them and has their records, and the fix has one result
  for each of them.  A result counts nothing exactly if all records of its source are of rules that
  do not take part; where the sources have names of their own, these are the records with the name
  of the file. -/
theorem scan_clean_iff_fix_idle [PatternEngine] (entries : List HookEntry) (strip : Bool) :
    let s := (RuleSet.compile entries).1
    (∀ text file,
      s.fix text strip = ⟨rewriteInTurn (s.eligible strip) text,
        (foundInTurn (s.eligible strip) text).sum⟩ ∧
      (∀ r ∈ s.rules, r.records none text = [] → r.replaceAll text = text) ∧
      ((s.fix text strip).replacements = 0 ↔
        ∀ record ∈ s.scan text file, s.isEligibleRecord strip record = false) ∧
      ((s.fix text strip).replacements = 0 → (s.fix text strip).text = text) ∧
      ((s.fix text strip).text ≠ text → 1 ≤ (s.fix text strip).replacements)) ∧
    ∀ (t : FileTree) (root : String) (patterns : List String) (keepsBefore : Bool),
      let mode : FixMode := ⟨false, keepsBefore, strip⟩
      match t.sourcesOf root patterns with
      | .error e => t.scan root s patterns = .error e ∧ t.fix root s patterns mode = .error e
      | .ok sources => ∃ report results,
        t.scan root s patterns = .ok report ∧ t.fix root s patterns mode = .ok (results, t) ∧
        report.files = sources.length ∧
        report.records = (sources.flatMap fun source => s.scan source.text (some source.name)) ∧
        results.Perm (sources.map (FixResult.ofSource s mode)) ∧
        (∀ source ∈ sources, (FixResult.ofSource s mode source).replacements = 0 ↔
          ∀ record ∈ s.scan source.text (some source.name),
            s.isEligibleRecord strip record = false) ∧
        ((sources.map Source.name).Nodup → ∀ result ∈ results, result.replacements = 0 ↔
          ∀ record ∈ report.records, record.location.file = some result.file →
            s.isEligibleRecord strip record = false) := by
  intro s
  have hs : s.Indexed := RuleSet.indexed_compile entries
  refine ⟨fun text file => ?_, fun t root patterns keepsBefore => ?_⟩
  · refine ⟨s.fix_eq text strip, fun r _ hnone => Rule.replaceAll_eq_self hnone,
      RuleSet.fix_replacements_eq_zero_iff hs text file strip,
      RuleSet.fix_text_of_no_replacements, fun hchanged => ?_⟩
    refine Nat.one_le_iff_ne_zero.2 fun hnone => ?_
    exact hchanged (RuleSet.fix_text_of_no_replacements hnone)
  · intro mode
    have hscan := t.scan_eq root s patterns
    have hfix := t.fix_eq_of_not_write root s patterns keepsBefore strip
    cases hsources : t.sourcesOf root patterns with
    | error e =>
        rw [hsources] at hscan hfix
        exact ⟨hscan, hfix⟩
    | ok sources =>
        rw [hsources] at hscan hfix
        have hperm : (FixResult.sorted (sources.map (FixResult.ofSource s mode))).Perm
            (sources.map (FixResult.ofSource s mode)) := List.mergeSort_perm _ _
        exact ⟨_, _, hscan, hfix, rfl, rfl, hperm,
          fun source _ => FixResult.replacements_ofSource_eq_zero_iff hs mode source,
          fun hnames _ hresult =>
            FixResult.replacements_eq_zero_iff hs hnames hperm hresult⟩

section Usual

attribute [local instance] PatternEngine.usual

/-- A file with a call of a hook that has changed, and another one with a hook that is gone. -/
def twoFiles : FileTree where
  files := [(["a.cs"], "Foo(int b); Old();".toUTF8), (["b.cs"], "Old();".toUTF8)]
  folders := []
  home := []

/-- The scan has a record for each file, but only the one of the migration takes part in a fix that
leaves removals alone. -/
theorem scan_clean_iff_fix_idle_removals :
    let s := (RuleSet.compile [.ofSignatures "Foo(int a)" (some "Foo(long a)"),
      .ofSignatures "Old()" none]).1
    ∃ report results, twoFiles.scan "." s ["*.cs"] = .ok report ∧
      twoFiles.fix "." s ["*.cs"] ⟨false, false, false⟩ = .ok (results, twoFiles) ∧
      report.files = 2 ∧ report.records.length = 3 ∧ results.length = 2 ∧
      (∃ result ∈ results, result.file = "b.cs" ∧ result.replacements = 0) ∧
      ∀ record ∈ report.records, record.location.file = some "b.cs" →
        s.isEligibleRecord false record = false := by
  intro s
  obtain ⟨htexts, hfiles⟩ := scan_clean_iff_fix_idle [.ofSignatures "Foo(int a)"
    (some "Foo(long a)"), .ofSignatures "Old()" none] false
  have hrun := hfiles twoFiles "." ["*.cs"] false
  have hsources : twoFiles.sourcesOf "." ["*.cs"] =
      .ok [⟨"a.cs", "Foo(int b); Old();"⟩, ⟨"b.cs", "Old();"⟩] := by decide +kernel
  simp only [hsources] at hrun
  obtain ⟨report, results, hscan, hfix, hcount, hrecords, hperm, hsource, hresult⟩ := hrun
  have hidle :
      (FixResult.ofSource s ⟨false, false, false⟩ ⟨"b.cs", "Old();"⟩).replacements = 0 := by
    decide +kernel
  have hmem : FixResult.ofSource s ⟨false, false, false⟩ ⟨"b.cs", "Old();"⟩ ∈ results :=
    hperm.mem_iff.2 (by simp [s])
  refine ⟨report, results, hscan, hfix, hcount, ?_, hperm.length_eq, ⟨_, hmem, rfl, hidle⟩, ?_⟩
  · -- the order of the records does not change their number
    rw [hrecords, List.length_flatMap]
    simp only [RuleSet.scan, List.length_mergeSort]
    decide +kernel
  · exact (hresult (by decide) _ hmem).1 hidle

end Usual

end HookMigration
