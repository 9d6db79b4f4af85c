import HookMigration.RuleSet

/-!
# Fixing a text

The rules of a set are applied one after the other, each to what the one before it made.  Rules that
delete take part only where they are asked for, since the deletion of a hook mostly leaves code that
somebody has to finish.
-/

namespace HookMigration

/-- A text under way and the number of replacements made in it. -/
structure Fixed where
  text : String
  replacements : Nat
  deriving DecidableEq, Repr

/-- One rule applied to a text under way. -/
def Fixed.apply (f : Fixed) (r : Rule) : Fixed :=
  match Pattern.hitCount (r.stretches f.text) with
  | 0 => f
  | hits + 1 => ⟨r.replaceAll f.text, f.replacements + (hits + 1)⟩

namespace RuleSet

/-- The rules that take part in a fix. -/
def eligible (s : RuleSet) (strip : Bool) : List Rule :=
  s.rules.filter fun r => strip || !r.isRemoval

/-- The text that a fix makes, and the number of replacements in it. -/
def fix (s : RuleSet) (text : String) (strip : Bool) : Fixed :=
  (s.eligible strip).foldl Fixed.apply ⟨text, 0⟩

end RuleSet

/-- What a fix did to one file. -/
structure FixResult where
  file : String
  changed : Bool
  replacements : Nat
  /-- The fixed text, where it is not written. -/
  preview : Option String
  /-- The text before, where it was asked for. -/
  before : Option String
  /-- Why the fixed text could not be written. -/
  error : Option String
  deriving DecidableEq, Repr

namespace FixResult

/-- Whether the fixed text was written, when writing was asked for. -/
def wrote (r : FixResult) (write : Bool) : Bool :=
  write && r.changed && r.error.isNone

end FixResult

end HookMigration
