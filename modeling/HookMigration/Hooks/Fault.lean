import HookMigration.Text.Quoted

/-!
# Faults of a configured entry

A hook file is read entry by entry, and an entry that does not fit is left out with a reason.
-/

namespace HookMigration

/-- What kind of value stands where another kind was asked for. -/
inductive Shape
  | integer (n : Int)
  /-- A floating-point number, as its format shows it. -/
  | float (shown : String)
  | boolean (b : Bool)
  | text (s : String)
  | null
  | unit
  | unitVariant
  | sequence
  | map
  deriving DecidableEq, Repr

/-- The words for a kind of value. -/
def Shape.describe : Shape → String
  | .integer n => "integer `" ++ toString n ++ "`"
  | .float shown => "floating point `" ++ shown ++ "`"
  | .boolean b => "boolean `" ++ toString b ++ "`"
  | .text s => "string " ++ Text.quoted s
  | .null => "null"
  | .unit => "unit value"
  | .unitVariant => "unit variant"
  | .sequence => "sequence"
  | .map => "map"

/-- Why an entry of a hook file is left out. -/
inductive EntryFault
  /-- It has no old signature. -/
  | missingOld
  /-- Its severity is no known word. -/
  | unknownSeverity (word : String)
  /-- A value is of another kind than asked for. -/
  | wrongType (found : Shape) (expected : String)
  /-- A severity given as a map does not have exactly one member. -/
  | notSingle
  /-- A list without items stands for an entry. -/
  | emptyList
  /-- A list with too many items stands for an entry. -/
  | longList (length : Nat)
  /-- An old signature maps to neither a signature nor nothing. -/
  | notSignature
  /-- A severity given as a table has an unfit value or number of members. -/
  | unfitTable (wording : String)
  deriving DecidableEq, Repr

/-- The wording of a fault. -/
def EntryFault.message : EntryFault → String
  | .missingOld => "missing field `old`"
  | .unknownSeverity word =>
    "unknown variant `" ++ word ++ "`, expected one of `info`, `warn`, `warning`, `error`"
  | .wrongType found expected => "invalid type: " ++ found.describe ++ ", expected " ++ expected
  | .notSingle => "invalid value: map, expected map with a single key"
  | .emptyList => "invalid length 0, expected struct HookEntry with 4 elements"
  | .longList length =>
    "invalid length " ++ toString length ++ ", expected fewer elements in array"
  | .notSignature => "must map to a signature string or null"
  | .unfitTable wording => wording

/-- What is expected of a text field. -/
def expectedText : String := "a string"

/-- What is expected of a whole entry. -/
def expectedEntry : String := "struct HookEntry"

end HookMigration
