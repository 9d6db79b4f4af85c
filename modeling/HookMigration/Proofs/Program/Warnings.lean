import HookMigration.Events
import HookMigration.Proofs.Hooks.Outcomes
import Mathlib.Data.List.Forall2

/-!
# Warnings

What a run leaves out, its log warns about.  A hook file gives one warning for each item that makes no
rule, in the order in which these are reported (`HookFile.warnings_events`).  A scan and a fix give
one warning for each target that is no text, in whatever order the workers come
(`FileTree.countP_warnings_readEvents`, `FileTree.countP_warnings_fixEvents`).
-/

namespace HookMigration

/-- Whether an event is a warning. -/
def LogEvent.isWarning (e : LogEvent) : Bool :=
  e.level = .warn

/-! ## Items that make no rule -/

section Entries

variable [PatternEngine]

/-- An event warns about an item that makes no rule, and says why it makes none. -/
inductive WarnsOf : LogEvent → SkippedEntry → Prop
  | invalid (e : InvalidEntry) : WarnsOf e.event (.invalid e)
  | uncompiled {entry : HookEntry} {e : CompileError} (h : Rule.compileEntry entry = .error e) :
    WarnsOf (RuleSet.skippedEvent entry e) (.uncompiled e)

theorem RuleSet.warnings_pushEvents (s : RuleSet) (entries : List HookEntry) :
    List.Forall₂ WarnsOf ((s.pushEvents entries).filter LogEvent.isWarning)
      ((s.pushEntries entries).2.map .uncompiled) := by
  induction entries generalizing s with
  | nil => exact .nil
  | cons entry rest ih =>
      unfold pushEvents pushEntries
      cases hentry : Rule.compileEntry entry with
      | ok rule => exact ih (s.push rule)
      | error e => exact .cons (.uncompiled hentry) (ih s)

/-- A hook file gives one warning for each item that makes no rule, in their order. -/
theorem HookFile.warnings_events (file : HookFile) :
    List.Forall₂ WarnsOf (file.events.filter LogEvent.isWarning) file.compile.2 := by
  have hinvalid : (file.invalid.map InvalidEntry.event).filter LogEvent.isWarning =
      file.invalid.map InvalidEntry.event := by
    refine List.filter_eq_self.2 fun e he => ?_
    obtain ⟨entry, -, rfl⟩ := List.mem_map.1 he
    rfl
  have hcounted (rules errors : Nat) :
      [RuleSet.countedEvent rules errors].filter LogEvent.isWarning = [] := rfl
  unfold events RuleSet.compileEvents
  rw [List.filter_append, List.filter_append, hinvalid, hcounted, List.append_nil]
  refine List.rel_append ?_ (RuleSet.warnings_pushEvents .empty file.entries)
  rw [List.forall₂_map_left_iff, List.forall₂_map_right_iff, List.forall₂_same]
  exact fun e _ => .invalid e

end Entries

/-! ## Targets that are no texts -/

theorem countP_warnings_rewritingEvents (text : String) (rules : List Rule) :
    (rewritingEvents text rules).countP LogEvent.isWarning = 0 := by
  induction rules generalizing text with
  | nil => rfl
  | cons r rest ih =>
      unfold rewritingEvents
      split
      · exact ih text
      · rw [List.countP_cons_of_neg (by simp [Rule.rewritingEvent, LogEvent.isWarning]), ih]

namespace FileTree

/-- Workers that warn exactly of targets that are no texts do so once for each. -/
theorem countP_warnings_merge (schedule : Schedule) (t : FileTree) (root : String)
    (targets : List Trail) {work : Trail → List LogEvent}
    (h : ∀ trail, (work trail).countP LogEvent.isWarning =
      if (t.textAt trail.place).isOk then 0 else 1) :
    (schedule.merge (targets.map work)).countP LogEvent.isWarning +
      (t.sources root targets).length = targets.length := by
  rw [(schedule.perm _).countP_eq, List.countP_flatten]
  induction targets with
  | nil => rfl
  | cons trail rest ih =>
      unfold sources at ih ⊢
      rw [List.map_cons, List.map_cons, List.sum_cons, h, List.filterMap_cons, List.length_cons,
        ← ih]
      cases t.textAt trail.place <;> simp [Except.isOk, Except.toBool] <;> omega

/-- However its workers come, a scan warns once of each target that is no text. -/
theorem countP_warnings_readEvents (schedule : Schedule) (t : FileTree) (root : String)
    (targets : List Trail) :
    (schedule.merge (targets.map t.readEvents)).countP LogEvent.isWarning +
      (t.sources root targets).length = targets.length := by
  refine countP_warnings_merge schedule t root targets fun trail => ?_
  unfold readEvents
  cases t.textAt trail.place <;> rfl

/-- However its workers come, a fix warns once of each target that is no text. -/
theorem countP_warnings_fixEvents (schedule : Schedule) (t : FileTree) (root : String)
    (rules : RuleSet) (strip : Bool) (targets : List Trail) :
    (schedule.merge (targets.map (t.fixEvents rules strip))).countP LogEvent.isWarning +
      (t.sources root targets).length = targets.length := by
  refine countP_warnings_merge schedule t root targets fun trail => ?_
  unfold fixEvents
  cases t.textAt trail.place with
  | ok text => exact countP_warnings_rewritingEvents text _
  | error e => rfl

end FileTree

end HookMigration
