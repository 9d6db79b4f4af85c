import HookMigration.Record
import HookMigration.RuleSet

/-!
# Diagnostics from outside

A diagnostic of a compiler or analyser belongs to the first rule of its hook, or else to the rule
with its id.  A diagnostic that belongs to a rule takes the message and the severity of the rule;
any other one keeps its own.
-/

namespace HookMigration

/-- A finding of an external analyser. -/
structure Diagnostic where
  id : String
  hook : Option String
  severity : Severity
  message : String
  location : Location
  deriving DecidableEq, Repr

namespace RuleSet

/-- The rule that a diagnostic belongs to. -/
def ruleFor? (s : RuleSet) (d : Diagnostic) : Option Rule :=
  (d.hook.bind s.byHook?).or (s.get? d.id)

/-- The record of a diagnostic. -/
def recordOf (s : RuleSet) (d : Diagnostic) : Record :=
  match s.ruleFor? d with
  | some r => ⟨r.id, none, d.location, none, none, r.message, r.severity⟩
  | none => ⟨d.id, none, d.location, none, none, d.message, d.severity⟩

/-- The records of diagnostics, in their order. -/
def recordsOf (s : RuleSet) (diagnostics : List Diagnostic) : List Record :=
  diagnostics.map s.recordOf

end RuleSet

end HookMigration
