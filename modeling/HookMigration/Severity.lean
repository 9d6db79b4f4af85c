import HookMigration.Text.Trim

/-!
# Severities

Three severities in increasing order.  Files write them with `Severity.ofKeyword?`, which takes the
exact words; the command line reads them with `Severity.ofText`, which is lenient.
-/

namespace HookMigration

/-- How serious a finding is. -/
inductive Severity
  | info
  | warning
  | error
  deriving DecidableEq, Repr

namespace Severity

/-- The place of a severity in the order. -/
def rank : Severity → Nat
  | .info => 0
  | .warning => 1
  | .error => 2

instance : LE Severity := ⟨fun a b => a.rank ≤ b.rank⟩

instance (a b : Severity) : Decidable (a ≤ b) :=
  inferInstanceAs (Decidable (a.rank ≤ b.rank))

/-- The name of a severity. -/
def name : Severity → String
  | .info => "info"
  | .warning => "warning"
  | .error => "error"

/-- The severity that a file means by a word. -/
def ofKeyword? : String → Option Severity
  | "info" => some .info
  | "warn" | "warning" => some .warning
  | "error" => some .error
  | _ => none

/-- The severity that a user means by a text, or the text in the form in which it was looked up. -/
def ofText (text : String) : Except String Severity :=
  let word := Text.lowerAscii (Text.trimmed text)
  match word with
  | "info" | "hidden" => .ok .info
  | "warning" | "warn" => .ok .warning
  | "error" => .ok .error
  | other => .error other

/-- The wording for a text that `ofText` does not know. -/
def unknownMessage (word : String) : String :=
  "unknown severity '" ++ word ++ "' (expected error|warning|info)"

end Severity

end HookMigration
