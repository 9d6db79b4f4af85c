import HookMigration.Hooks.Entry
import HookMigration.Json.Limits

/-!
# Hook entries in JSON

A JSON hook file is an array of entries, or an object that maps old signatures to new ones.  An entry
is an object or a list of up to four items.  A severity may be written as an object whose only
member has its word for a name and `null` for a value.
-/

namespace HookMigration.Json

/-- The kind of a value. -/
def shape : Json → Shape
  | .null => .null
  | .boolean b => .boolean b
  | .number n =>
    match n.toInt? with
    | some i => .integer i
    | none => .float n.toBinary64.displayShort
  | .string s => .text s
  | .brokenString => .text ""
  | .array _ => .sequence
  | .object _ => .map

/-- A text. -/
def toText : Json → Except EntryFault String
  | .string s => .ok s
  | value => .error (.wrongType value.shape expectedText)

/-- A text or nothing. -/
def toOptionalText : Json → Except EntryFault (Option String)
  | .null => .ok none
  | value => value.toText.map some

/-- A severity. -/
def toSeverity : Json → Except EntryFault Severity
  | .string word => severityOfKeyword word
  | .object members =>
    match mergeMembers members with
    | [(word, value)] => do
      let severity ← severityOfKeyword word
      match value with
      | .null => return severity
      | value => throw (.wrongType value.shape "unit")
    | _ => .error .notSingle
  | value => .error (.wrongType value.shape "string or map")

/-- A severity or nothing. -/
def toOptionalSeverity : Json → Except EntryFault (Option Severity)
  | .null => .ok none
  | value => value.toSeverity.map some

/-- How fields are read. -/
def fieldReader : FieldReader Json :=
  ⟨toText, toOptionalText, toOptionalSeverity⟩

/-- An entry. -/
def toEntry : Json → Except FieldFault HookEntry
  | .object members => HookEntry.ofFields fieldReader (mergeMembers members)
  | .array items => HookEntry.ofList fieldReader items
  | value => .error ⟨none, .wrongType value.shape expectedEntry⟩

/-- The old signature of an entry, if it is an object that has one. -/
def entryName? : Json → Option String
  | .object members =>
    match (mergeMembers members).lookup "old" with
    | some (.string s) => some s
    | _ => none
  | _ => none

/-- One item of an array of entries. -/
def toItem (value : Json) : Option String × Except String HookEntry :=
  (value.entryName?, value.toEntry.mapError (·.fault.message))

/-- One member of an object of signatures. -/
def toPair (old : String) (new : Json) : Option String × Except String HookEntry :=
  (some old,
    match new with
    | .string new => .ok (.ofSignatures old (some new))
    | .null => .ok (.ofSignatures old none)
    | _ => .error EntryFault.notSignature.message)

/-- The items of a hook file, unless the document is neither an array nor an object. -/
def hookItems? : Json → Option (List (Option String × Except String HookEntry))
  | .array items => some (items.map toItem)
  | .object members => some ((mergeMembers members).map fun (old, new) => toPair old new)
  | _ => none

end HookMigration.Json
