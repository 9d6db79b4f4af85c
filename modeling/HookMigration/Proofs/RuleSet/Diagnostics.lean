import HookMigration.Diagnostic
import HookMigration.Proofs.RuleSet.Lookups
import HookMigration.Proofs.RuleSet.Merging

/-!
# Records from outside and records of a scan

A record comes from a match in a text or from a diagnostic of an external analyser.  The two ways
meet only in the lookups of the rule set: a diagnostic is given to the first rule of its hook
(`recordOf_of_hook`), or else to the rule with its id (`recordOf_of_id`), or to none
(`recordOf_of_no_rule`).

The tables behind these lookups are in step with the rules, and every rule has an id of its own,
also the second and third rule of a hook; so the id of a record leads back to the rule that made it.
A diagnostic that only restates a record, with its id and its place, therefore becomes that record
again but for the text (`recordOf_of_restates`), and a report is the same from both
(`diagnostics_agree`).
-/

namespace HookMigration

/-- A record without what only a match in a text has. -/
def Record.withoutText (record : Record) : Record :=
  { record with span := none, matchedText := none, suggestedReplacement := none }

/-- What a rule says about a place. -/
def Rule.recordAt (r : Rule) (location : Location) : Record where
  ruleId := r.id
  span := none
  location := location
  matchedText := none
  suggestedReplacement := none
  message := r.message
  severity := r.severity

/-- What a diagnostic says by itself. -/
def Diagnostic.record (d : Diagnostic) : Record where
  ruleId := d.id
  span := none
  location := d.location
  matchedText := none
  suggestedReplacement := none
  message := d.message
  severity := d.severity

/-- A record of a rule says what the rule says about its place. -/
theorem Rule.withoutText_of_mem_records {r : Rule} {file : Option String} {text : String}
    {record : Record} (h : record ∈ r.records file text) :
    record.withoutText = r.recordAt record.location := by
  obtain ⟨before, m, rest, -, rfl⟩ := mem_records_iff.1 h
  rfl

/-- A report does not show what only a match in a text has. -/
theorem report_map_withoutText (records : List Record) (threshold : Severity) :
    report (records.map Record.withoutText) threshold = report records threshold := by
  unfold report atLeast
  rw [List.filter_map, List.map_map]
  rfl

namespace RuleSet

variable {s : RuleSet} {d : Diagnostic} {r : Rule} {record : Record} {hook : String}

/-- A diagnostic names no hook that a rule has. -/
def Unhooked (s : RuleSet) (d : Diagnostic) : Prop :=
  ∀ hook, d.hook = some hook → ∀ r ∈ s.rules, r.hook ≠ hook

/-- A diagnostic gives the place of a record and the id of its rule, with any message and severity,
and names no hook that a rule has. -/
structure Restates (s : RuleSet) (record : Record) (d : Diagnostic) : Prop where
  id : d.id = record.ruleId
  location : d.location = record.location
  unhooked : s.Unhooked d

/-! ## The rule of a diagnostic -/

theorem recordOf_of_rule (h : s.ruleFor? d = some r) : s.recordOf d = r.recordAt d.location := by
  unfold recordOf
  rw [h]
  rfl

/-- The first rule of its hook gets a diagnostic, whatever its id. -/
theorem recordOf_of_hook (hs : s.Indexed) {before after : List Rule}
    (hrules : s.rules = before ++ r :: after) (hfirst : ∀ r' ∈ before, r'.hook ≠ r.hook)
    (hook_eq : d.hook = some r.hook) :
    s.recordOf d = r.recordAt d.location := by
  apply recordOf_of_rule
  have hbyHook : s.byHook? r.hook = some r := by
    have hnone : before.find? (·.hook == r.hook) = none := by
      rw [List.find?_eq_none]
      intro r' hr' heq
      exact hfirst r' hr' (beq_iff_eq.1 heq)
    rw [hs.byHook?_eq, hrules, List.find?_append, hnone, Option.none_or,
      List.find?_cons_of_pos (by simp)]
  unfold ruleFor?
  rw [hook_eq, Option.bind_some, hbyHook, Option.some_or]

theorem ruleFor?_of_unhooked (hs : s.Indexed) (h : s.Unhooked d) : s.ruleFor? d = s.get? d.id := by
  have hnone : d.hook.bind s.byHook? = none := by
    cases hhook : d.hook with
    | none => rfl
    | some hook =>
        rw [Option.bind_some, hs.byHook?_eq, List.find?_eq_none]
        intro r hr heq
        exact h hook hhook r hr (beq_iff_eq.1 heq)
  unfold ruleFor?
  rw [hnone, Option.none_or]

/-- Without a rule of its hook, the rule with its id gets a diagnostic. -/
theorem recordOf_of_id (hs : s.Indexed) (hr : r ∈ s.rules)
    (hunhooked : s.Unhooked d) (hid : d.id = r.id) : s.recordOf d = r.recordAt d.location := by
  apply recordOf_of_rule
  rw [ruleFor?_of_unhooked hs hunhooked, hid, hs.get?_eq_some_iff.2 ⟨hr, rfl⟩]

/-- A diagnostic that no rule gets keeps what it says. -/
theorem recordOf_of_no_rule (hs : s.Indexed) (hunhooked : s.Unhooked d)
    (hid : ∀ r ∈ s.rules, r.id ≠ d.id) : s.recordOf d = d.record := by
  have hnone : s.get? d.id = none := by
    rw [hs.get?_eq, List.find?_eq_none]
    intro r hr heq
    exact hid r hr (beq_iff_eq.1 heq)
  unfold recordOf
  rw [ruleFor?_of_unhooked hs hunhooked, hnone]
  rfl

/-! ## Restating a scan -/

/-- A diagnostic that restates a record of a scan becomes this record, but for the text. -/
theorem recordOf_of_restates (hs : s.Indexed) {text : String}
    {file : Option String} (hrecord : record ∈ s.scan text file) (h : s.Restates record d) :
    s.recordOf d = record.withoutText := by
  obtain ⟨r, hr, hrecord⟩ := mem_scan_iff.1 hrecord
  have hid : d.id = r.id := by
    rw [h.id, Rule.ruleId_of_mem_records hrecord]
  rw [recordOf_of_id hs hr h.unhooked hid, h.location, Rule.withoutText_of_mem_records hrecord]

theorem recordsOf_of_restates (hs : s.Indexed) {text : String}
    {file : Option String} {records : List Record} {diagnostics : List Diagnostic}
    (hrecords : ∀ record ∈ records, record ∈ s.scan text file)
    (h : List.Forall₂ s.Restates records diagnostics) :
    s.recordsOf diagnostics = records.map Record.withoutText := by
  unfold recordsOf
  induction h with
  | nil => rfl
  | cons hfirst hrest ih =>
      obtain ⟨hrecord, hothers⟩ := List.forall_mem_cons.1 hrecords
      rw [List.map_cons, List.map_cons, recordOf_of_restates hs hrecord hfirst, ih hothers]

/-- Records from outside and records of a scan agree.

* There is one record for each diagnostic, in the same order, at the place that the diagnostic gives
  and without anything of a text.
* Diagnostics that restate the records of a scan become these records, but for the text, and a
  report shows the same of both.
* A diagnostic whose hook has rules is given to the first of them.  If its hook has none, it is given
  to the rule with its id, and if there is no such rule, it keeps what it says. -/
theorem diagnostics_agree [PatternEngine] (entries : List HookEntry) :
    let s := (compile entries).1
    (∀ diagnostics, List.Forall₂
      (fun d record => record.location = d.location ∧ record.span = none ∧
        record.matchedText = none ∧ record.suggestedReplacement = none)
      diagnostics (s.recordsOf diagnostics)) ∧
    (∀ text file diagnostics, List.Forall₂ s.Restates (s.scan text file) diagnostics →
      s.recordsOf diagnostics = (s.scan text file).map Record.withoutText ∧
      ∀ threshold, report (s.recordsOf diagnostics) threshold =
        report (s.scan text file) threshold) ∧
    (∀ d before r after, s.rules = before ++ r :: after → (∀ r' ∈ before, r'.hook ≠ r.hook) →
      d.hook = some r.hook → s.recordOf d = r.recordAt d.location) ∧
    (∀ d, s.Unhooked d → ∀ r ∈ s.rules, d.id = r.id → s.recordOf d = r.recordAt d.location) ∧
    ∀ d, s.Unhooked d → (∀ r ∈ s.rules, r.id ≠ d.id) → s.recordOf d = d.record := by
  intro s
  have hs : s.Indexed := indexed_compile entries
  refine ⟨?_, ?_, fun d before r after => recordOf_of_hook hs,
    fun d hunhooked r hr => recordOf_of_id hs hr hunhooked, fun d => recordOf_of_no_rule hs⟩
  · intro diagnostics
    unfold recordsOf
    rw [List.forall₂_map_right_iff, List.forall₂_same]
    intro d _
    unfold recordOf
    cases s.ruleFor? d <;> exact ⟨rfl, rfl, rfl, rfl⟩
  · intro text file diagnostics h
    have hrecords := recordsOf_of_restates hs (fun record hrecord => hrecord) h
    refine ⟨hrecords, ?_⟩
    intro threshold
    rw [hrecords, report_map_withoutText]

section Usual

attribute [local instance] PatternEngine.usual

/-- Diagnostics restate a scan that found two rules of one hook.  One that names the hook goes to the
first of them, even with the id of the second. -/
theorem diagnostics_agree_overloads :
    let s := (compile [.ofSignatures "Foo(int a)" (some "Bar(int a)"),
      .ofSignatures "Foo()" none]).1
    let restated := (s.scan "Foo(); Foo(int b)" none).map fun record =>
      Diagnostic.mk record.ruleId (some "Bar") .info "" record.location
    report (s.recordsOf restated) .error = report (s.scan "Foo(); Foo(int b)" none) .error ∧
      (s.recordOf ⟨"FooError_2", none, .info, "", ⟨none, 4, 9⟩⟩).ruleId = "FooError_2" ∧
      (s.recordOf ⟨"FooError_2", some "Foo", .info, "", ⟨none, 4, 9⟩⟩).ruleId = "FooError" ∧
      s.recordOf ⟨"CS0103", some "Bar", .info, "m", ⟨none, 1, 2⟩⟩ =
        ⟨"CS0103", none, ⟨none, 1, 2⟩, none, none, "m", .info⟩ := by
  intro s restated
  obtain ⟨-, hscan, hhook, hid, hnone⟩ := diagnostics_agree
    [.ofSignatures "Foo(int a)" (some "Bar(int a)"), .ofSignatures "Foo()" none]
  have hunhooked : ∀ id severity message location,
      s.Unhooked ⟨id, some "Bar", severity, message, location⟩ := by
    intro id severity message location hook hhook
    obtain rfl := Option.some.inj hhook
    decide +kernel
  obtain ⟨first, second, hrules, hhooks, hfirst, hsecond⟩ : ∃ first second,
      s.rules = [first, second] ∧ first.hook = "Foo" ∧ first.id = "FooError" ∧
        second.id = "FooError_2" :=
    ⟨_, _, rfl, by decide +kernel⟩
  refine ⟨?_, ?_, ?_, hnone _ (hunhooked _ _ _ _) (by decide +kernel)⟩
  · apply (hscan "Foo(); Foo(int b)" none restated _).2
    rw [List.forall₂_map_right_iff, List.forall₂_same]
    intro record _
    exact ⟨rfl, rfl, hunhooked _ _ _ _⟩
  · have hmem : second ∈ s.rules := by
      rw [hrules]
      exact List.mem_cons_of_mem first (List.mem_singleton_self second)
    rw [hid ⟨"FooError_2", none, .info, "", ⟨none, 4, 9⟩⟩ (fun hook h => nomatch h) second hmem
      hsecond.symm]
    exact hsecond
  · rw [hhook ⟨"FooError_2", some "Foo", .info, "", ⟨none, 4, 9⟩⟩ [] first [second] hrules
      (by simp) (congrArg some hhooks.symm)]
    exact hfirst

end Usual

end RuleSet

end HookMigration
