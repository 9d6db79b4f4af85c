import HookMigration.Hooks.Entry
import HookMigration.Yaml.Checks

/-!
# Hook entries in YAML

A YAML hook file has a list `hook` of mappings whose keys are texts.  An entry that is nothing counts
as an empty mapping.
-/

namespace HookMigration.Yaml

/-- The kind of a scalar. -/
def Scalar.shape : Scalar → Shape
  | .null => .unit
  | .boolean b => .boolean b
  | .integer n => .integer n
  | .hugeInteger n => .integer n
  | .float x => .float x.display
  | .string s => .text s

/-- The kind of a value. -/
def shape : Yaml → Shape
  | .scalar text plain => (resolve text plain).shape
  | .sequence _ => .sequence
  | .mapping _ => .map

/-- A text. -/
def toText (value : Yaml) : Except EntryFault String :=
  match value.scalar? with
  | some (.string s) => .ok s
  | _ => .error (.wrongType value.shape expectedText)

/-- A text or nothing. -/
def toOptionalText (value : Yaml) : Except EntryFault (Option String) :=
  match value.scalar? with
  | some .null => .ok none
  | _ => value.toText.map some

/-- A severity or nothing. -/
def toOptionalSeverity (value : Yaml) : Except EntryFault (Option Severity) :=
  match value.scalar? with
  | some .null => .ok none
  | some (.string word) => (severityOfKeyword word).map some
  | _ => .error (.wrongType value.shape "a Value::Tag enum")

/-- How fields are read. -/
def fieldReader : FieldReader Yaml :=
  ⟨toText, toOptionalText, toOptionalSeverity⟩

/-- The field that a key names. -/
def fieldName (key : Yaml) : Except EntryFault String :=
  match key.scalar? with
  | some (.string name) => .ok name
  | _ => .error (.wrongType key.shape "field identifier")

/-- A draft with the fields of further entries, up to the first fault of a key or of a value. -/
def putEntries (draft : EntryDraft) : List (Yaml × Yaml) → Except FieldFault EntryDraft
  | [] => .ok draft
  | (key, value) :: rest => do
    let field ← (fieldName key).mapError (FieldFault.mk none)
    let draft ← (draft.put fieldReader field value).mapError (FieldFault.mk (some field))
    putEntries draft rest

/-- An entry. -/
def toEntry : Yaml → Except FieldFault HookEntry
  | .mapping entries => do (← putEntries EntryDraft.empty entries).finish
  | value =>
    match value.scalar? with
    | some .null => EntryDraft.empty.finish
    | _ => .error ⟨none, .wrongType value.shape expectedEntry⟩

/-- The old signature of an entry, if it is a mapping that has one. -/
def entryName? : Yaml → Option String
  | .mapping entries =>
    match entries.find? fun (key, _) => key.scalar? == some (.string "old") with
    | some (_, value) =>
      match value.scalar? with
      | some (.string s) => some s
      | _ => none
    | none => none
  | _ => none

/-- The values in the list `hook`, unless the document is no record or `hook` is no list.  The record
and the list count towards the limit on nesting. -/
def hookValues? (document : Option Yaml) : Option (List Yaml) := do
  let fields ← recordFields? document
  match ← uniqueField? fields "hook" with
  | none => return []
  | some (.sequence items) => if keepsItems (nestingLimit - 2) items then return items else none
  | some value => if value.scalar? = some .null then return [] else none

end HookMigration.Yaml
