import HookMigration.Fix
import HookMigration.Proofs.Signature.Parsed
import Mathlib.Data.List.Nodup
import Mathlib.Data.List.Perm.Subperm

/-!
# Compiled rule sets

A rule set is compiled entry by entry, and only the ids of its rules depend on the entries before.
So the rules of permuted entries are permuted, up to their ids (`perm_eligible`), and a rule that is
not a removal is made of an old and a new signature that can be read (`exists_migrates`).
-/

namespace HookMigration

/-- A rule is the migration of one signature to another. -/
structure Rule.Migrates (r : Rule) (old new : Signature) : Prop where
  old_read : Signature.parse r.oldSignature = .ok old
  new_read : ∃ source, r.change = .migration source ∧ Signature.parse source = .ok new
  hook : r.hook = old.name
  pattern : r.pattern = Migration.pattern old
  template : r.template = Migration.template old new

/-- The old signature of a rule, where it can be read. -/
def Rule.oldRead? (r : Rule) : Option Signature :=
  (Signature.parse r.oldSignature).toOption

/-- The new signature of a rule, where there is one that can be read. -/
def Rule.newRead? (r : Rule) : Option Signature :=
  r.change.newSignature?.bind fun source => (Signature.parse source).toOption

theorem Rule.Migrates.oldRead?_eq {r : Rule} {old new : Signature} (h : r.Migrates old new) :
    r.oldRead? = some old := by
  rw [oldRead?, h.old_read]
  rfl

theorem Rule.Migrates.newRead?_eq {r : Rule} {old new : Signature} (h : r.Migrates old new) :
    r.newRead? = some new := by
  obtain ⟨source, hchange, hparse⟩ := h.new_read
  simp only [newRead?, hchange, Change.newSignature?, Option.bind_some, hparse]
  rfl

/-- A result that passes a test is there. -/
theorem exists_ok_of_any {ε α : Type} {x : Except ε α} {q : α → Bool}
    (h : x.toOption.any q = true) : ∃ a, x = .ok a ∧ q a = true := by
  cases x with
  | error e => simp [Except.toOption] at h
  | ok a => exact ⟨a, rfl, by simpa [Except.toOption] using h⟩

namespace Rule

/-- A rule without its id. -/
def nameless (r : Rule) : Rule :=
  { r with id := "" }

theorem Migrates.of_nameless {r r' : Rule} {old new : Signature} (h : r.Migrates old new)
    (heq : r.nameless = r'.nameless) : r'.Migrates old new := by
  obtain ⟨id, hook, oldSignature, change, pattern, template, message, severity⟩ := r
  obtain ⟨id', hook', oldSignature', change', pattern', template', message', severity'⟩ := r'
  obtain ⟨rfl, rfl, rfl, rfl, rfl, rfl, rfl⟩ := by simpa [nameless] using heq
  exact ⟨h.old_read, h.new_read, h.hook, h.pattern, h.template⟩

theorem isRemoval_of_nameless {r r' : Rule} (heq : r.nameless = r'.nameless) :
    r.isRemoval = r'.isRemoval := by
  have hchange : r.nameless.change = r'.nameless.change := by rw [heq]
  exact congrArg Change.isRemoval hchange

/-! ## From an entry to its rule -/

variable [PatternEngine]

theorem accepted_eq_ok_iff {r r' : Rule} :
    accepted r = .ok r' ↔ PatternEngine.accepts r.pattern = true ∧ r = r' := by
  unfold accepted
  split_ifs with h <;> simp [h]

theorem compileRemoval_eq_ok_iff {old : String} {r : Rule} : compileRemoval old = .ok r ↔
    Signature.hookName (Text.trimmed old) ≠ "" ∧
      PatternEngine.accepts (Removal.pattern (Text.trimmed old)) = true ∧
      removal (Text.trimmed old) = r := by
  simp only [compileRemoval]
  split_ifs with hhook
  · simp [hhook]
  · rw [accepted_eq_ok_iff, removal_pattern]
    simp only [ne_eq, hhook, not_false_eq_true, true_and]

theorem compileMigration_eq_ok_iff {old new : String} {r : Rule} :
    compileMigration old new = .ok r ↔ ∃ o n, Signature.parse old = .ok o ∧
      Signature.parse new = .ok n ∧ PatternEngine.accepts (Migration.pattern o) = true ∧
      migration (Text.trimmed old) new o n = r := by
  cases hold : Signature.parse old with
  | error e => simp [compileMigration, hold, Except.mapError, bind, Except.bind]
  | ok o =>
      cases hnew : Signature.parse new with
      | error e => simp [compileMigration, hold, hnew, Except.mapError, bind, Except.bind]
      | ok n =>
          have haccepted : compileMigration old new =
              accepted (migration (Text.trimmed old) new o n) := by
            simp [compileMigration, hold, hnew, Except.mapError, bind, Except.bind]
          rw [haccepted, accepted_eq_ok_iff, migration_pattern]
          simp

theorem migrates_of_compileMigration {old new : String} {r : Rule}
    (h : compileMigration old new = .ok r) :
    ∃ o n, Signature.parse old = .ok o ∧ Signature.parse new = .ok n ∧ r.Migrates o n := by
  obtain ⟨o, n, hold, hnew, -, rfl⟩ := compileMigration_eq_ok_iff.1 h
  refine ⟨o, n, hold, hnew, ?_⟩
  exact {
    old_read := by rw [migration, Signature.parse_trimmed, hold]
    new_read := ⟨new, rfl, hnew⟩
    hook := rfl
    pattern := rfl
    template := rfl }

/-- The rule of two signatures that can be read is the migration of the one to the other. -/
theorem migrates_of_compile {oldText newText : String} {old new : Signature} {r : Rule}
    (hold : Signature.parse oldText = .ok old) (hnew : Signature.parse newText = .ok new)
    (hr : compile oldText (some newText) = .ok r) : r.Migrates old new := by
  have hnonempty : Text.trimmed newText ≠ "" := by
    intro hempty
    have hparse : Signature.parse "" = .ok new := by rw [← hempty, Signature.parse_trimmed, hnew]
    rw [show Signature.parse "" = .error ⟨.invalidSignature, ""⟩ by decide +kernel] at hparse
    exact absurd hparse (by simp)
  have hsome : ((some newText).map Text.trimmed).filter (· ≠ "") = some (Text.trimmed newText) := by
    simp [hnonempty]
  rw [compile, hsome] at hr
  obtain ⟨o, n, ho, hn, hmigrates⟩ := migrates_of_compileMigration hr
  obtain rfl := Except.ok.inj (hold.symm.trans ho)
  obtain rfl := Except.ok.inj (hnew.symm.trans (Signature.parse_trimmed newText ▸ hn))
  exact hmigrates

theorem isRemoval_of_compileRemoval {old : String} {r : Rule} (h : compileRemoval old = .ok r) :
    r.isRemoval = true := by
  obtain ⟨-, -, rfl⟩ := compileRemoval_eq_ok_iff.1 h
  rfl

theorem pattern_of_compileRemoval {old : String} {r : Rule} (h : compileRemoval old = .ok r) :
    r.pattern = Removal.pattern (Text.trimmed old) ∧ Text.trim old.toList ≠ [] := by
  obtain ⟨hhook, -, rfl⟩ := compileRemoval_eq_ok_iff.1 h
  constructor
  · exact removal_pattern _
  · intro hempty
    refine hhook ?_
    rw [Signature.hookName, Text.toList_trimmed, hempty]
    rfl

/-- The rule of an entry is a removal, or the migration of signatures that can be read. -/
theorem migrates_of_compileEntry {entry : HookEntry} {r : Rule} (h : compileEntry entry = .ok r)
    (hremoval : r.isRemoval = false) : ∃ old new, r.Migrates old new := by
  cases hcompile : compile entry.old entry.new with
  | error e => simp [compileEntry, hcompile, bind, Except.bind] at h
  | ok r' =>
      simp only [compileEntry, hcompile, bind, Except.bind, pure, Except.pure] at h
      cases h
      unfold compile at hcompile
      split at hcompile
      · -- without a new signature the rule is a removal
        have hremoved := isRemoval_of_compileRemoval hcompile
        simp only [isRemoval] at hremoval hremoved
        simp [hremoved] at hremoval
      · obtain ⟨o, n, -, -, hmigrates⟩ := migrates_of_compileMigration hcompile
        exact ⟨o, n, hmigrates.old_read, hmigrates.new_read, hmigrates.hook, hmigrates.pattern,
          hmigrates.template⟩

/-- The rule of an entry that is a removal has the pattern of a text that is not blank. -/
theorem removes_of_compileEntry {entry : HookEntry} {r : Rule} (h : compileEntry entry = .ok r)
    (hremoval : r.isRemoval = true) :
    ∃ old, r.pattern = Removal.pattern (Text.trimmed old) ∧ Text.trim old.toList ≠ [] := by
  cases hcompile : compile entry.old entry.new with
  | error e => simp [compileEntry, hcompile, bind, Except.bind] at h
  | ok r' =>
      simp only [compileEntry, hcompile, bind, Except.bind, pure, Except.pure] at h
      cases h
      unfold compile at hcompile
      split at hcompile
      · obtain ⟨hpattern, hne⟩ := pattern_of_compileRemoval hcompile
        exact ⟨entry.old, hpattern, hne⟩
      · obtain ⟨o, n, -, -, hmigrates⟩ := migrates_of_compileMigration hcompile
        obtain ⟨source, hchange, -⟩ := hmigrates.new_read
        simp [isRemoval, hchange, Change.isRemoval] at hremoval

/-- A rule was made of a configured entry, be it under the id that the entry asks for or not. -/
def IsCompiled (r : Rule) : Prop :=
  ∃ entry r', compileEntry entry = .ok r' ∧ r'.nameless = r.nameless

theorem isCompiled_of_compile {old : String} {new : Option String} {r : Rule}
    (h : compile old new = .ok r) : r.IsCompiled := by
  refine ⟨.ofSignatures old new, r, ?_, rfl⟩
  simp [compileEntry, HookEntry.ofSignatures, h, bind, Except.bind, pure, Except.pure]

theorem IsCompiled.exists_migrates {r : Rule} (h : r.IsCompiled) (hremoval : r.isRemoval = false) :
    ∃ old new, r.Migrates old new := by
  obtain ⟨entry, r', hentry, heq⟩ := h
  rw [← isRemoval_of_nameless heq] at hremoval
  obtain ⟨old, new, hmigrates⟩ := migrates_of_compileEntry hentry hremoval
  exact ⟨old, new, hmigrates.of_nameless heq⟩

theorem IsCompiled.exists_removal {r : Rule} (h : r.IsCompiled) (hremoval : r.isRemoval = true) :
    ∃ old, r.pattern = Removal.pattern (Text.trimmed old) ∧ Text.trim old.toList ≠ [] := by
  obtain ⟨entry, r', hentry, heq⟩ := h
  rw [← isRemoval_of_nameless heq] at hremoval
  obtain ⟨old, hpattern, hne⟩ := removes_of_compileEntry hentry hremoval
  have hsame : r'.nameless.pattern = r.nameless.pattern := by rw [heq]
  exact ⟨old, hsame.symm.trans hpattern, hne⟩

end Rule

/-! ## From entries to rules -/

namespace RuleSet

variable [PatternEngine]

/-- The rules of entries, before they get their ids in a rule set. -/
def compiledRules (entries : List HookEntry) : List Rule :=
  entries.filterMap fun entry => (Rule.compileEntry entry).toOption

theorem nameless_pushEntries (s : RuleSet) (entries : List HookEntry) :
    (s.pushEntries entries).1.rules.map Rule.nameless =
      s.rules.map Rule.nameless ++ (compiledRules entries).map Rule.nameless := by
  induction entries generalizing s with
  | nil => simp [pushEntries, compiledRules]
  | cons entry rest ih =>
      cases hentry : Rule.compileEntry entry with
      | ok rule =>
          simp only [pushEntries, hentry, ih, push]
          simp [compiledRules, hentry, Except.toOption, Rule.nameless]
      | error e =>
          simp only [pushEntries, hentry, ih]
          simp [compiledRules, hentry, Except.toOption]

/-- The rules of a compiled set are those of its entries, up to ids. -/
theorem nameless_compile (entries : List HookEntry) :
    (compile entries).1.rules.map Rule.nameless = (compiledRules entries).map Rule.nameless := by
  have hrules : (empty.pushEntries entries).1.rules.map Rule.nameless =
      [] ++ (compiledRules entries).map Rule.nameless :=
    nameless_pushEntries empty entries
  exact hrules

/-- The rules that take part in a fix, up to ids. -/
theorem nameless_eligible (entries : List HookEntry) :
    ((compile entries).1.eligible false).map Rule.nameless =
      ((compiledRules entries).map Rule.nameless).filter fun r => !r.isRemoval := by
  rw [← nameless_compile, List.filter_map]
  rfl

/-- The entries may be given in any order. -/
theorem perm_eligible {entries entries' : List HookEntry} (h : entries.Perm entries') :
    (((compile entries).1.eligible false).map Rule.nameless).Perm
      (((compile entries').1.eligible false).map Rule.nameless) := by
  rw [nameless_eligible, nameless_eligible]
  exact ((h.filterMap _).map _).filter _

/-- The rules of a compiled set were made of its entries. -/
theorem isCompiled {entries : List HookEntry} {r : Rule} (h : r ∈ (compile entries).1.rules) :
    r.IsCompiled := by
  have hmem : r.nameless ∈ (compiledRules entries).map Rule.nameless := by
    rw [← nameless_compile]
    exact List.mem_map_of_mem h
  obtain ⟨r', hr', heq⟩ := List.mem_map.1 hmem
  obtain ⟨entry, -, hentry⟩ := List.mem_filterMap.1 hr'
  refine ⟨entry, r', ?_, heq⟩
  cases hcase : Rule.compileEntry entry with
  | error e => simp [hcase, Except.toOption] at hentry
  | ok r'' =>
      obtain rfl : r'' = r' := by simpa [hcase, Except.toOption] using hentry
      rfl

/-- A rule of a compiled set that takes part in a fix is the migration of two signatures. -/
theorem exists_migrates {entries : List HookEntry} {r : Rule}
    (h : r ∈ (compile entries).1.eligible false) : ∃ old new, r.Migrates old new := by
  obtain ⟨hr, hremoval⟩ := List.mem_filter.1 h
  exact (isCompiled hr).exists_migrates (by simpa using hremoval)

end RuleSet

end HookMigration
