import HookMigration.PlainDecoders
import HookMigration.Program
import HookMigration.Proofs.Files.Fixing
import HookMigration.Proofs.Program.Stages
import HookMigration.Proofs.RuleSet.Turns

/-!
# Preview, check and write

A fix shows what it would do, checks whether there is anything to do, or does it.  All three read
the same sources and make the same fixed texts, so they agree (`Workload.Agrees`): what is written
is what would be shown, and a check fails exactly if a write would change a file.

No other run changes a file: the program writes in one place alone, in a fix whose settings ask for
writing and for neither a diff nor a check.
-/

namespace HookMigration

variable {e : Effective} {t : FileTree}

/-! ## Runs that leave the files alone -/

namespace Effective

variable [Decoders]

/-- What is printed before the work does not touch the files. -/
theorem carried_tree (e : Effective) (t : FileTree) : e.Carried t fun o => o.tree = t where
  failed _ := rfl
  logged _ _ h := h
  remarks _ h := h
  skipped _ _ h := h

variable [PatternEngine]

theorem tree_scan (e : Effective) (t : FileTree) : (e.scan t).tree = t :=
  (e.carried_tree t).warningOfSkipped fun _ _ =>
    Outcome.of_bind (fun o => o.tree = t) fun _ => rfl

theorem tree_report (e : Effective) (t : FileTree) (diagnostics : String) :
    (e.report t diagnostics).tree = t :=
  (e.carried_tree t).warningOfSkipped fun _ _ =>
    Outcome.of_bind (fun o => o.tree = t) fun _ => rfl

theorem tree_listRules (e : Effective) (t : FileTree) : (e.listRules t).tree = t := by
  refine (e.carried_tree t).withRules fun loaded o ho => ?_
  rw [← Except.ok.inj ho]

theorem tree_fix_of_not_writes (h : e.writes = false) (t : FileTree) : (e.fix t).tree = t := by
  refine (e.carried_tree t).warningOfSkipped fun rules o ho => ?_
  rw [FileTree.fix_eq] at ho
  cases htargets : t.targets e.repoRoot e.patterns with
  | error => simp [htargets, Except.map, Except.mapError] at ho
  | ok targets =>
      rw [htargets] at ho
      rw [← Except.ok.inj ho]
      exact if_neg (by simp [fixMode, h])

end Effective

/-- Whether a command fixes. -/
def Command.isFix : Command → Bool
  | .fix .. => true
  | _ => false

/-- A command that fixes does so with its settings, behind what finding them logs. -/
theorem Command.run_of_isFix [PatternEngine] [Decoders] {c : Command} (h : c.isFix = true)
    (t : FileTree) :
    let settings := Config.resolve t c.overrides
    c.run t = .after (.ofLog (Config.loadEvents t settings.repoRoot)) (settings.fix t) := by
  cases c with
  | fix => rfl
  | _ => cases h

/-- What finding the settings logs does not touch the files. -/
theorem Command.tree_withSettings [Decoders] (c : Command) (t : FileTree)
    (run : Effective → Outcome) :
    (c.withSettings t run).tree = (run (Config.resolve t c.overrides)).tree := rfl

theorem Command.tree_run_of_not_isFix [PatternEngine] [Decoders] {c : Command}
    (h : c.isFix = false) (t : FileTree) : (c.run t).tree = t := by
  cases c with
  | version => rfl
  | scan => exact (tree_withSettings ..).trans (Effective.tree_scan _ t)
  | fix => cases h
  | report => exact (tree_withSettings ..).trans (Effective.tree_report _ t _)
  | rules => exact (tree_withSettings ..).trans (Effective.tree_listRules _ t)

/-! ## What a fix works on -/

/-- What a fix works on: the hook file that it loads, and the targets of its patterns. -/
structure Workload [Decoders] (e : Effective) (t : FileTree) where
  file : HookFile
  targets : List Trail
  load_eq : HookFile.load t e.rulesPath = .ok file
  targets_eq : t.targets e.repoRoot e.patterns = .ok targets

namespace Effective

/-- The same settings without writing. -/
def previewing (e : Effective) : Effective :=
  { e with write := false }

/-- The same settings with writing, and with neither a diff nor a check. -/
def writing (e : Effective) : Effective :=
  { e with write := true, diff := false, check := false }

@[simp] theorem writes_writing (e : Effective) : e.writing.writes = true := rfl

theorem writes_eq_true : e.writes = true ↔ e.write = true ∧ e.diff = false ∧ e.check = false := by
  simp [writes]

theorem writes_eq_false_of_diff_or_check (h : e.diff = true ∨ e.check = true) :
    e.writes = false := by
  rcases h with h | h <;> simp [writes, h]

end Effective

namespace Workload

variable [Decoders]

/-- The targets that are texts. -/
def sources (w : Workload e t) : List (Trail × Source) :=
  t.sources e.repoRoot w.targets

/-- What the preview of a run works on. -/
def previewing (w : Workload e t) : Workload e.previewing t :=
  ⟨w.file, w.targets, w.load_eq, w.targets_eq⟩

/-- What the run works on that writes. -/
def writing (w : Workload e t) : Workload e.writing t :=
  ⟨w.file, w.targets, w.load_eq, w.targets_eq⟩

variable [PatternEngine]

/-- The rules of the hook file. -/
def rules (w : Workload e t) : RuleSet :=
  w.file.compile.1

/-- The result for one of the sources. -/
def result (w : Workload e t) (s : Trail × Source) : FixResult :=
  .ofSource w.rules e.fixMode s.2

/-- The results in the order in which they are shown. -/
def results (w : Workload e t) : List FixResult :=
  FixResult.sorted (w.sources.map w.result)

theorem fix_eq (w : Workload e t) :
    e.fix t = ⟨e.fixCode w.results,
      e.remarks t ++ (.ofLog w.file.events ++ (skippedTranscript w.file.compile.2 ++
        (t.fixLog e.repoRoot w.rules e.patterns e.strip ++
          fixTranscript w.results e.output e.writes e.diff))),
      if e.writes then t.writeAll w.rules e.strip w.sources else t⟩ := by
  unfold Effective.fix Effective.warningOfSkipped Effective.withRules
  rw [w.load_eq]
  simp only [FileTree.fix_eq, w.targets_eq]
  rfl

/-! ### Results -/

theorem changed_result (w : Workload e t) (s : Trail × Source) :
    (w.result s).changed = true ↔ (w.rules.fix s.2.text e.strip).text ≠ s.2.text := by
  simp [result, FixResult.ofSource, FixResult.ofFixed, Effective.fixMode]

theorem preview_result (w : Workload e t) (s : Trail × Source) :
    (w.result s).preview = if (w.result s).changed && !e.writes then
      some (w.rules.fix s.2.text e.strip).text else none := rfl

theorem mem_results {w : Workload e t} {r : FixResult} :
    r ∈ w.results ↔ ∃ s ∈ w.sources, w.result s = r := by
  unfold results
  rw [FixResult.mem_sorted, List.mem_map]

theorem error_result (w : Workload e t) (s : Trail × Source) : (w.result s).error = none := rfl

theorem any_changed_results (w : Workload e t) :
    w.results.any (·.changed) = true ↔ ∃ s ∈ w.sources, (w.result s).changed = true := by
  rw [List.any_eq_true]
  constructor
  · rintro ⟨r, hr, hchanged⟩
    obtain ⟨s, hs, rfl⟩ := mem_results.1 hr
    exact ⟨s, hs, hchanged⟩
  · rintro ⟨s, hs, hchanged⟩
    exact ⟨w.result s, mem_results.2 ⟨s, hs, rfl⟩, hchanged⟩

theorem exitCode_fix (w : Workload e t) :
    (e.fix t).exitCode = if e.check && w.results.any (·.changed) then 1 else 0 := by
  have hnoError : w.results.any (·.error.isSome) = false := by
    rw [List.any_eq_false]
    intro r hr
    obtain ⟨s, -, rfl⟩ := mem_results.1 hr
    simp [error_result]
  rw [fix_eq w]
  simp only [Effective.fixCode, hnoError]
  rfl

/-- To write instead of showing drops the texts that are shown, and nothing else. -/
theorem results_eq_map_previewing (w : Workload e t) (h : e.writes = true) :
    w.results = w.previewing.results.map FixResult.withoutPreview := by
  have hresult : ∀ s, w.result s = (w.previewing.result s).withoutPreview := by
    intro s
    obtain ⟨-, hdiff, hcheck⟩ := Effective.writes_eq_true.1 h
    simp [result, FixResult.ofSource, FixResult.ofFixed, FixResult.withoutPreview,
      Effective.fixMode, h, hdiff, hcheck, previewing, rules, Effective.previewing]
  unfold results
  rw [← FixResult.sorted_map (f := FixResult.withoutPreview) fun _ => rfl, List.map_map]
  exact congrArg _ (List.map_congr_left fun s _ => hresult s)

/-! ### The files afterwards -/

theorem tree_fix (w : Workload e t) (h : e.writes = true) :
    (e.fix t).tree = t.writeAll w.rules e.strip w.sources := by
  rw [fix_eq w]
  exact if_pos h

theorem file?_fix_ne_iff (w : Workload e t) (h : e.writes = true) (place : Place) :
    (e.fix t).tree.file? place ≠ t.file? place ↔
      ∃ s ∈ w.sources, s.1.place = place ∧ (w.previewing.result s).changed = true := by
  rw [tree_fix w h]
  refine FileTree.file?_writeAll_ne_iff.trans ?_
  simp only [changed_result]
  rfl

theorem file?_fix_of_preview (w : Workload e t) (h : e.writes = true) {s : Trail × Source}
    (hs : s ∈ w.sources) {text : String} (htext : (w.previewing.result s).preview = some text) :
    (e.fix t).tree.file? s.1.place = some text.toUTF8 := by
  rw [tree_fix w h]
  rw [preview_result] at htext
  split_ifs at htext
  rw [← Option.some.inj htext]
  exact FileTree.file?_writeAll_of_mem hs

/-- A check fails exactly if a write would change a file. -/
theorem any_changed_results_iff (w : Workload e t) :
    w.results.any (·.changed) = true ↔
      ∃ place, (e.writing.fix t).tree.file? place ≠ t.file? place := by
  rw [any_changed_results]
  simp only [file?_fix_ne_iff w.writing e.writes_writing]
  constructor
  · rintro ⟨s, hs, hchanged⟩
    exact ⟨s.1.place, s, hs, rfl, hchanged⟩
  · rintro ⟨place, s, hs, -, hchanged⟩
    exact ⟨s, hs, hchanged⟩

/-- Files that are no targets, or no texts, keep their bytes. -/
theorem file?_fix_of_not_source (w : Workload e t) {place : Place}
    (h : (∀ trail ∈ w.targets, trail.place ≠ place) ∨ ∀ text, t.textAt place ≠ .ok text) :
    (e.fix t).tree.file? place = t.file? place := by
  have hsource : ∀ s ∈ w.sources, s.1.place ≠ place := by
    rintro s hs rfl
    obtain ⟨htarget, htext, -⟩ := FileTree.mem_sources.1 hs
    rcases h with h | h
    · exact h s.1 htarget rfl
    · exact h s.2.text htext
  cases hwrites : e.writes with
  | false => rw [Effective.tree_fix_of_not_writes hwrites]
  | true => rw [tree_fix w hwrites, FileTree.file?_writeAll_of_not_mem hsource]

theorem files_fix (w : Workload e t) :
    (e.fix t).tree.folders = t.folders ∧
      (e.fix t).tree.files.map Prod.fst = t.files.map Prod.fst := by
  cases hwrites : e.writes with
  | false => rw [Effective.tree_fix_of_not_writes hwrites]; exact ⟨rfl, rfl⟩
  | true => rw [tree_fix w hwrites]; exact FileTree.files_writeAll t _ _ _

/-! ### The JSON form -/

/-- The sources in the order in which their results are shown. -/
def sorted (w : Workload e t) : List (Trail × Source) :=
  w.sources.mergeSort fun a b => a.2.name ≤ b.2.name

theorem results_eq_map_sorted (w : Workload e t) : w.results = w.sorted.map w.result := by
  refine (List.map_mergeSort ?_).symm
  intro a _ b _
  rfl

/-- The number of sources that a fix changes. -/
def changes (w : Workload e t) : Nat :=
  w.sources.countP fun s => (w.result s).changed

theorem countP_results (w : Workload e t) (p : FixResult → Bool) :
    w.results.countP p = w.sources.countP fun s => p (w.result s) := by
  rw [results_eq_map_sorted, List.countP_map]
  exact (List.mergeSort_perm _ _).countP_eq _

/-- What the JSON form says about a source: a change is written or shown, and its diff is there if
it was asked for. -/
def sourceJson (w : Workload e t) (s : Trail × Source) : Json :=
  let fixed := (w.rules.fix s.2.text e.strip).text
  let changed := (w.result s).changed
  .object [("file", .string s.2.name), ("changed", .boolean changed),
    ("replacements", .nat (w.result s).replacements), ("wrote", .boolean (e.writes && changed)),
    ("error", .null),
    ("preview", .optional .string (if changed && !e.writes then some fixed else none)),
    ("diff", .optional .string
      (if e.diff && changed then some (LineDiff.ofTexts s.2.text fixed) else none))]

/-- What the JSON form says: each source, and how many were changed and written. -/
def document (w : Workload e t) : Json :=
  .object [("results", .array (w.sorted.map w.sourceJson)),
    ("summary", .object [("changed", .nat w.changes), ("total", .nat w.sources.length),
      ("wrote", .nat (if e.writes then w.changes else 0)), ("failed", .nat 0)])]

theorem json_result (w : Workload e t) (s : Trail × Source) :
    (w.result s).json e.writes e.diff = w.sourceJson s := by
  have hwrote : (w.result s).wrote e.writes = (e.writes && (w.result s).changed) :=
    Bool.and_true _
  have hpreview : (if e.writes then none else (w.result s).preview) = (w.result s).preview := by
    rw [preview_result]
    cases e.writes <;> simp
  -- where a diff is asked for nothing is written, and both texts are at hand
  have hdiff : (if e.diff && !e.writes then
      LineDiff.ofTexts? (w.result s).before (w.result s).preview else none) =
        if e.diff && (w.result s).changed then
          some (LineDiff.ofTexts s.2.text (w.rules.fix s.2.text e.strip).text) else none := by
    cases hasked : e.diff with
    | false => rfl
    | true =>
        have hbefore : (w.result s).before = some s.2.text := by
          simp [result, FixResult.ofSource, FixResult.ofFixed, Effective.fixMode, hasked]
        rw [preview_result, hbefore, Effective.writes_eq_false_of_diff_or_check (.inl hasked)]
        cases (w.result s).changed <;> rfl
  unfold FixResult.json
  rw [hwrote, hpreview, hdiff]
  rfl

theorem fixJson_results (w : Workload e t) : fixJson w.results e.writes e.diff = w.document := by
  have hsources : w.results.map (FixResult.json e.writes e.diff) = w.sorted.map w.sourceJson := by
    rw [results_eq_map_sorted, List.map_map]
    exact List.map_congr_left fun s _ => w.json_result s
  have htotal : w.results.length = w.sources.length := by
    rw [results_eq_map_sorted, List.length_map]
    exact List.length_mergeSort _
  have hwrote : w.results.countP (·.wrote e.writes) = if e.writes then w.changes else 0 := by
    rw [countP_results]
    cases hwrites : e.writes with
    | true => exact List.countP_congr fun s _ => by simp [FixResult.wrote, w.error_result]
    | false => simp [FixResult.wrote]
  have hfailed : w.results.countP (·.error.isSome) = 0 := by
    rw [countP_results]
    simp [error_result]
  unfold fixJson
  rw [hsources, htotal, hwrote, hfailed, countP_results]
  rfl

end Workload

/-- Without a workload there is nothing that could be done. -/
theorem Effective.fix_of_isEmpty [PatternEngine] [Decoders] (h : IsEmpty (Workload e t)) :
    (e.fix t).exitCode = 2 ∧ (e.fix t).tree = t := by
  unfold fix warningOfSkipped withRules
  cases hload : HookFile.load t e.rulesPath with
  | error => exact ⟨rfl, rfl⟩
  | ok file =>
      cases htargets : t.targets e.repoRoot e.patterns with
      | error => simp only [FileTree.fix_eq, htargets]; exact ⟨rfl, rfl⟩
      | ok targets => exact (h.false ⟨file, targets, hload, htargets⟩).elim

/-! ## Preview, check and write agree -/

/-- A fix does what its preview shows, to the files that its preview names and to no others. -/
structure Workload.Agrees [PatternEngine] [Decoders] (w : Workload e t) : Prop where
  printed : (e.fix t).printed =
    e.remarks t ++ (.ofLog w.file.events ++ (skippedTranscript w.file.compile.2 ++
      (t.fixLog e.repoRoot w.rules e.patterns e.strip ++
        fixTranscript w.results e.output e.writes e.diff)))
  same_results : e.writes = true →
    w.results = w.previewing.results.map FixResult.withoutPreview
  changes_iff : e.writes = true → ∀ place,
    ((e.fix t).tree.file? place ≠ t.file? place ↔
      ∃ s ∈ w.sources, s.1.place = place ∧ (w.previewing.result s).changed = true)
  writes_preview : e.writes = true → ∀ s ∈ w.sources, ∀ text,
    (w.previewing.result s).preview = some text →
      (e.fix t).tree.file? s.1.place = some text.toUTF8
  keeps_others : ∀ place,
    ((∀ trail ∈ w.targets, trail.place ≠ place) ∨ ∀ text, t.textAt place ≠ .ok text) →
      (e.fix t).tree.file? place = t.file? place
  keeps_names : (e.fix t).tree.folders = t.folders ∧
    (e.fix t).tree.files.map Prod.fst = t.files.map Prod.fst
  /-- It does not matter in which order the targets are read and written. -/
  any_order : e.writes = true → (w.targets.map Trail.place).Nodup →
    ∀ order : List Trail, order.Perm w.targets →
      order.foldl (FileTree.fixTarget w.rules e.strip) t = (e.fix t).tree
  check : e.check = true →
    ((e.fix t).exitCode = 1 ↔ ∃ place, (e.writing.fix t).tree.file? place ≠ t.file? place) ∧
      ((e.fix t).exitCode = 1 ∨ (e.fix t).exitCode = 0)
  json : fixJson w.results e.writes e.diff = w.document

theorem Workload.agrees [PatternEngine] [Decoders] (w : Workload e t) : w.Agrees where
  printed := by rw [fix_eq w]
  same_results := w.results_eq_map_previewing
  changes_iff := w.file?_fix_ne_iff
  writes_preview := fun h s hs text => w.file?_fix_of_preview h hs
  keeps_others := fun place => w.file?_fix_of_not_source
  keeps_names := w.files_fix
  any_order := by
    intro h hplaces order horder
    rw [w.tree_fix h]
    exact FileTree.foldl_fixTarget hplaces horder e.repoRoot t
  check := by
    intro h
    rw [← w.any_changed_results_iff, w.exitCode_fix, h]
    cases w.results.any (·.changed) <;> simp
  json := w.fixJson_results

theorem FileTree.preview_of_fix [PatternEngine] {root : String} {rules : RuleSet}
    {patterns : List String} {mode : FixMode} {results : List FixResult} {after : FileTree}
    (h : t.fix root rules patterns mode = .ok (results, after)) {r : FixResult}
    (hr : r ∈ results) :
    (r.preview.isSome = true ↔ r.changed = true ∧ mode.write = false) ∧
      (r.replacements = 0 → r.changed = false) := by
  rw [FileTree.fix_eq] at h
  cases htargets : t.targets root patterns with
  | error => rw [htargets] at h; cases h
  | ok targets =>
      rw [htargets] at h
      rw [← (Prod.mk.inj (Except.ok.inj h)).1, FixResult.mem_sorted, List.mem_map] at hr
      obtain ⟨s, -, rfl⟩ := hr
      constructor
      · simp only [FixResult.ofSource, FixResult.ofFixed]
        split_ifs with hpreview <;> simpa using hpreview
      · intro hnone
        simpa [FixResult.ofSource, FixResult.ofFixed] using
          RuleSet.fix_text_of_no_replacements hnone

/-- Preview, check and write agree, and nothing else is touched. -/
theorem fix_modes [PatternEngine] [Decoders] (t : FileTree) :
    (∀ (e : Effective) (w : Workload e t), w.Agrees) ∧
    (∀ e : Effective, IsEmpty (Workload e t) →
      (e.fix t).exitCode = 2 ∧ (e.fix t).tree = t) ∧
    (∀ e : Effective, e.diff = true ∨ e.check = true → (e.fix t).tree = t) ∧
    (∀ c : Command, c.isFix = true →
      let settings := Config.resolve t c.overrides
      c.run t = .after (.ofLog (Config.loadEvents t settings.repoRoot)) (settings.fix t)) ∧
    (∀ c : Command, c.isFix = false → (c.run t).tree = t) ∧
    ∀ root rules patterns mode results after,
      t.fix root rules patterns mode = .ok (results, after) → ∀ r ∈ results,
        (r.preview.isSome = true ↔ r.changed = true ∧ mode.write = false) ∧
          (r.replacements = 0 → r.changed = false) := by
  refine ⟨fun e w => w.agrees, fun e => e.fix_of_isEmpty, ?_, ?_, ?_, ?_⟩
  · intro e h
    exact e.tree_fix_of_not_writes (Effective.writes_eq_false_of_diff_or_check h) t
  · intro c hfix
    exact Command.run_of_isFix hfix t
  · intro c hfix
    exact Command.tree_run_of_not_isFix hfix t
  · intro root rules patterns mode results after h r hr
    exact FileTree.preview_of_fix h hr

/-- A folder with a hook file and a file with one call. -/
def smallTree : FileTree where
  files := [
    (["hooks.json"], "[\x7b\"old\": \"Foo(int a)\", \"new\": \"Foo(long a)\"\x7d]".toUTF8),
    (["a.cs"], "void Foo(int b)".toUTF8)]
  folders := []
  home := []

/-- A fix of that folder that writes. -/
def smallFix : Effective where
  repoRoot := "."
  rules := "hooks.json"
  patterns := ["*.cs"]
  output := "human"
  minSeverity := .error
  write := true
  diff := false
  check := false
  strip := false

section Plain

attribute [local instance] PatternEngine.usual Decoders.plain

/-- What that fix works on. -/
def smallWorkload : Workload smallFix smallTree where
  file := ⟨[.ofSignatures "Foo(int a)" (some "Foo(long a)")], []⟩
  targets := [⟨[.name "a.cs"], ["a.cs"]⟩]
  load_eq := by decide +kernel
  targets_eq := by decide +kernel

/-- The file is written as it is shown; a check fails, and leaves it alone. -/
theorem fix_modes_small :
    (smallFix.fix smallTree).tree.file? ["a.cs"] = some "void Foo(long b)".toUTF8 ∧
    (Effective.fix { smallFix with check := true } smallTree).exitCode = 1 ∧
    (Effective.fix { smallFix with check := true } smallTree).tree = smallTree := by
  obtain ⟨hagrees, -, hchecks, -⟩ := fix_modes smallTree
  have hwriting := hagrees smallFix smallWorkload
  have hchecking := hagrees { smallFix with check := true }
    ⟨_, _, smallWorkload.load_eq, smallWorkload.targets_eq⟩
  let s : Trail × Source := (⟨[.name "a.cs"], ["a.cs"]⟩, ⟨"a.cs", "void Foo(int b)"⟩)
  have hs : s ∈ smallWorkload.sources := by decide +kernel
  have hpreview : (smallWorkload.previewing.result s).preview = some "void Foo(long b)" := by
    decide +kernel
  have hchanged : (smallWorkload.previewing.result s).changed = true := by decide +kernel
  refine ⟨hwriting.writes_preview rfl s hs _ hpreview, ?_, hchecks _ (.inr rfl)⟩
  refine (hchecking.check rfl).1.2 ⟨["a.cs"], ?_⟩
  exact (hwriting.changes_iff rfl ["a.cs"]).2 ⟨s, hs, rfl, hchanged⟩

end Plain

end HookMigration
