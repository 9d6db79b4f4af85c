import HookMigration.Hooks.Fault
import HookMigration.Rule.Compile

/-!
# Decoding entries

An entry has the fields `old`, `new`, `severity` and `message`, of which only the first is required
and others than these are ignored.  Formats differ in how they read the value of a field, which a
`FieldReader` says; a fault remembers the field in which it was found.
-/

namespace HookMigration

/-- How a format reads the values of fields. -/
structure FieldReader (Value : Type) where
  text : Value → Except EntryFault String
  optionalText : Value → Except EntryFault (Option String)
  severity : Value → Except EntryFault (Option Severity)

/-- The severity that a word of a file means. -/
def severityOfKeyword (word : String) : Except EntryFault Severity :=
  match Severity.ofKeyword? word with
  | some severity => .ok severity
  | none => .error (.unknownSeverity word)

/-- An entry under way. -/
structure EntryDraft where
  old : Option String
  new : Option String
  severity : Option Severity
  message : Option String

/-- A fault, and the field of the entry that shows it. -/
structure FieldFault where
  field : Option String
  fault : EntryFault

namespace EntryDraft

/-- The entry without any field. -/
def empty : EntryDraft := ⟨none, none, none, none⟩

variable {Value : Type}

/-- The draft with one more field. -/
def put (read : FieldReader Value) (draft : EntryDraft) (field : String) (value : Value) :
    Except EntryFault EntryDraft :=
  match field with
  | "old" => (read.text value).map fun old => { draft with old := some old }
  | "new" => (read.optionalText value).map fun new => { draft with new := new }
  | "severity" => (read.severity value).map fun severity => { draft with severity := severity }
  | "message" => (read.optionalText value).map fun message => { draft with message := message }
  | _ => .ok draft

/-- The draft with further fields, up to the first fault. -/
def putAll (read : FieldReader Value) (draft : EntryDraft) :
    List (String × Value) → Except FieldFault EntryDraft
  | [] => .ok draft
  | (field, value) :: rest =>
    match draft.put read field value with
    | .ok draft => draft.putAll read rest
    | .error fault => .error ⟨some field, fault⟩

/-- The finished entry. -/
def finish (draft : EntryDraft) : Except FieldFault HookEntry :=
  match draft.old with
  | some old => .ok ⟨old, draft.new, draft.severity, draft.message⟩
  | none => .error ⟨none, .missingOld⟩

end EntryDraft

/-- The fields of an entry in the order in which a list gives them. -/
def entryFields : List String :=
  ["old", "new", "severity", "message"]

/-- The entry with given fields. -/
def HookEntry.ofFields (read : FieldReader Value) (fields : List (String × Value)) :
    Except FieldFault HookEntry := do
  (← EntryDraft.empty.putAll read fields).finish

/-- The entry with the fields of a list; a fault of an item is not said to lie in a field. -/
def HookEntry.ofList (read : FieldReader Value) (items : List Value) :
    Except FieldFault HookEntry :=
  if items.isEmpty then .error ⟨none, .emptyList⟩
  else do
    let entry ← (HookEntry.ofFields read (entryFields.zip items)).mapError fun e => ⟨none, e.fault⟩
    if items.length > entryFields.length then throw ⟨none, .longList items.length⟩
    return entry

/-- An entry of a hook file that is left out. -/
structure InvalidEntry where
  /-- The old signature of the entry, or its position if it has none that can be read. -/
  entry : String
  path : String
  reason : String
  deriving DecidableEq, Repr

/-- The wording of an entry that is left out. -/
def InvalidEntry.message (e : InvalidEntry) : String :=
  "hook '" ++ e.entry ++ "' in " ++ e.path ++ ": " ++ e.reason

/-- What a hook file holds: the entries that fit, and those that do not, both in order. -/
structure HookFile where
  entries : List HookEntry
  invalid : List InvalidEntry
  deriving DecidableEq, Repr

namespace HookFile

/-- A hook file with one more item in front, which stands at a position counted from one. -/
def consItem (path : String) (position : Nat) (name : Option String)
    (item : Except String HookEntry) (file : HookFile) : HookFile :=
  match item with
  | .ok entry => { file with entries := entry :: file.entries }
  | .error reason =>
    let name := name.getD ("#" ++ toString position)
    { file with invalid := ⟨name, path, reason⟩ :: file.invalid }

/-- The hook file of items from a position on.  Each item has a name, if it can be read, and is an
entry or the reason why it is none. -/
def ofItems (path : String) (position : Nat) :
    List (Option String × Except String HookEntry) → HookFile
  | [] => ⟨[], []⟩
  | (name, item) :: rest => consItem path position name item (ofItems path (position + 1) rest)

end HookFile

end HookMigration
