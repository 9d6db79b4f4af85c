import HookMigration.Program

/-!
# The stages of a run

The commands that read hooks share their stages.  Each may remark on missing settings, loads the
hook file, and warns about the entries that make no rule, before it does its own work; and wherever
a stage fails, the run ends with a message.

A condition on outcomes is `Carried` if it holds of every failure and is not lost to what the stages
print and log before the work.  Such a condition holds of a run as soon as it holds of every outcome
of the work.
-/

namespace HookMigration

variable {e : Effective} {t : FileTree} {P : Outcome → Prop}

/-- A step that may fail, and an outcome made of its result. -/
theorem Outcome.of_bind (P : Outcome → Prop) {ε α : Type} {step : Except ε α}
    {f : ε → RunError} {outcome : α → Outcome} {o : Outcome} (h : ∀ a, P (outcome a))
    (ho : (step.mapError f >>= fun a => pure (outcome a)) = .ok o) : P o := by
  cases step with
  | ok a =>
      rw [← Except.ok.inj ho]
      exact h a
  | error => cases ho

namespace Effective

variable [Decoders]

/-- A condition on outcomes that the stages of a run carry on. -/
structure Carried (e : Effective) (t : FileTree) (P : Outcome → Prop) : Prop where
  failed : ∀ error, P (.failed t error)
  logged : ∀ events o, P o → P (o.after (.ofLog events))
  remarks : ∀ o, P o → P (o.after (e.remarks t))
  skipped : ∀ entries o, P o → P (o.after (skippedTranscript entries))

namespace Carried

theorem ofExcept (h : e.Carried t P) {result : Except RunError Outcome}
    (hwork : ∀ o, result = .ok o → P o) : P (.ofExcept t result) := by
  cases result with
  | ok o => exact hwork o rfl
  | error error => exact h.failed error

variable [PatternEngine]

theorem withRules (h : e.Carried t P) {run : LoadedRules → Except RunError Outcome}
    (hwork : ∀ loaded o, run loaded = .ok o → P o) : P (e.withRules t run) := by
  refine h.remarks _ (h.ofExcept fun o ho => ?_)
  split at ho
  · cases ho
  · rw [← Except.ok.inj ho]
    exact h.logged _ _ (h.ofExcept (hwork _))

theorem warningOfSkipped (h : e.Carried t P) {run : RuleSet → Except RunError Outcome}
    (hwork : ∀ rules o, run rules = .ok o → P o) : P (e.warningOfSkipped t run) := by
  refine h.withRules fun loaded o ho => ?_
  rw [← Except.ok.inj ho]
  exact h.skipped _ _ (h.ofExcept (hwork loaded.rules))

end Carried

end Effective

end HookMigration
