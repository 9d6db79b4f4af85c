import HookMigration.Hooks.Entry
import HookMigration.Toml.Reader

/-!
# Hook entries in TOML

A TOML hook file has an array `hook`, of tables or of lists of up to four items.  The fields of a
table are read in the order of their names.  A reason ends its line, and names the field of a table
on a line of its own.
-/

namespace HookMigration.Toml

/-- The kind of a value. -/
def shape : Toml → Shape
  | .string s => .text s
  | .integer n => .integer n
  | .float x => .float x.display
  | .boolean b => .boolean b
  | .array _ => .sequence
  | .table _ => .map

/-- The word for the type of a value. -/
def typeName : Toml → String
  | .string _ => "string"
  | .integer _ => "integer"
  | .float _ => "float"
  | .boolean _ => "boolean"
  | .array _ => "array"
  | .table _ => "table"

/-- A text. -/
def toText : Toml → Except EntryFault String
  | .string s => .ok s
  | value => .error (.wrongType value.shape expectedText)

/-- A severity: its word, or a table whose only key is the word and whose value is empty. -/
def toSeverity : Toml → Except EntryFault Severity
  | .string word => severityOfKeyword word
  | .table [] => .error (.unfitTable "wanted exactly 1 element, found 0 elements")
  | .table [(word, value)] => do
    let severity ← severityOfKeyword word
    match value with
    | .table [] | .array [] => return severity
    | .table _ => throw (.unfitTable "expected empty table")
    | .array _ => throw (.unfitTable "expected empty array")
    | value => throw (.unfitTable ("expected table, found " ++ value.typeName))
  | .table _ => .error (.unfitTable "wanted exactly 1 element, more than 1 element")
  | _ => .error (.wrongType .unitVariant "string only")

/-- How fields are read. -/
def fieldReader : FieldReader Toml where
  text := toText
  optionalText value := value.toText.map some
  severity value := value.toSeverity.map some

/-- Entries in the order of their names. -/
def inOrder (entries : List (String × Toml)) : List (String × Toml) :=
  entries.mergeSort fun a b => a.1 ≤ b.1

/-- An entry. -/
def toEntry : Toml → Except FieldFault HookEntry
  | .table entries => HookEntry.ofFields fieldReader (inOrder entries)
  | .array items => HookEntry.ofList fieldReader items
  | value => .error ⟨none, .wrongType value.shape expectedEntry⟩

/-- The reason for a fault. -/
def reason (e : FieldFault) : String :=
  match e.field with
  | some field => e.fault.message ++ "\nin `" ++ field ++ "`\n"
  | none => e.fault.message ++ "\n"

/-- The old signature of an entry, if it is a table that has one. -/
def entryName? : Toml → Option String
  | .table entries =>
    match entries.lookup "old" with
    | some (.string s) => some s
    | _ => none
  | _ => none

/-- The values in the array `hook`, unless it is no array. -/
def hookValues? (document : List (String × Toml)) : Option (List Toml) :=
  match document.lookup "hook" with
  | none => some []
  | some (.array items) => some items
  | some _ => none

end HookMigration.Toml
