import HookMigration.Decoder
import HookMigration.Diagnostic
import HookMigration.Files.Tree
import HookMigration.Json.Limits
import HookMigration.Json.Reader

/-!
# Diagnostic files

The findings of an external analyser come as a JSON array.  It is read strictly: a known field that
is missing, repeated or of another type than asked for makes the whole file unfit; unknown fields
are ignored.  Line and column are integers of at most 64 bits.
-/

namespace HookMigration

/-- Why a diagnostic file cannot be loaded. -/
inductive DiagnosticCause
  | unreadable (error : FileError)
  | malformed (fault : String)
  deriving DecidableEq, Repr

/-- A diagnostic file that cannot be loaded. -/
structure DiagnosticFileError where
  path : String
  cause : DiagnosticCause
  deriving DecidableEq, Repr

namespace DiagnosticFileError

/-- The wording of the error. -/
def message (e : DiagnosticFileError) : String :=
  "diagnostic source " ++ e.path ++ " could not be loaded"

/-- The wording of what lies behind the error. -/
def cause? (e : DiagnosticFileError) : Option String :=
  match e.cause with
  | .unreadable error => some error.message
  | .malformed fault => some fault

end DiagnosticFileError

namespace Diagnostic

/-- A text. -/
def text? : Json → Option String
  | .string s => some s
  | _ => none

/-- A text or nothing. -/
def optionalText? : Json → Option (Option String)
  | .null => some none
  | value => (text? value).map some

/-- An integer that counts lines or columns. -/
def count? : Json → Option Nat
  | .number (.integer false n) => if n < Word.limit then some n else none
  | _ => none

/-- A severity: its word, or an object whose only member has the word for a name and `null` for a
value. -/
def severity? : Json → Option Severity
  | .string word => Severity.ofKeyword? word
  | .object [(word, .null)] => Severity.ofKeyword? word
  | _ => none

/-- The value of a member that must not be repeated. -/
def unique? (members : List (String × Json)) (name : String) : Option (Option Json) :=
  match members.filter (·.1 == name) with
  | [] => some none
  | [(_, value)] => some (some value)
  | _ => none

/-- A member that has to be there. -/
def required? (members : List (String × Json)) (name : String) (read : Json → Option α) :
    Option α := do
  read (← (← unique? members name))

/-- A member that may be missing. -/
def optional? (members : List (String × Json)) (name : String) (missing : α)
    (read : Json → Option α) : Option α := do
  match ← unique? members name with
  | none => return missing
  | some value => read value

/-- The names of the members of a diagnostic in the order in which a list gives their values. -/
def memberNames : List String :=
  ["id", "hook", "severity", "message", "file", "line", "column"]

/-- A diagnostic with given members. -/
def ofMembers? (members : List (String × Json)) : Option Diagnostic := do
  let id ← required? members "id" text?
  let hook ← optional? members "hook" none optionalText?
  let severity ← required? members "severity" severity?
  let message ← optional? members "message" "" text?
  let file ← optional? members "file" none optionalText?
  let line ← required? members "line" count?
  let column ← required? members "column" count?
  return ⟨id, hook, severity, message, ⟨file, line, column⟩⟩

/-- A diagnostic, written as an object or as a list of all its values. -/
def ofJson? : Json → Option Diagnostic
  | .object members => ofMembers? members
  | .array values =>
    if values.length = memberNames.length then ofMembers? (memberNames.zip values) else none
  | _ => none

/-- The diagnostics of a document. -/
def listOfJson? : Json → Option (List Diagnostic)
  | .array items => items.mapM ofJson?
  | _ => none

/-- Loads the diagnostics of the file at a path. -/
def load [Decoders] (t : FileTree) (path : String) :
    Except DiagnosticFileError (List Diagnostic) := do
  let text ← (t.readText path).mapError fun e => ⟨path, .unreadable e⟩
  match (Json.read? text).bind listOfJson? with
  | some diagnostics => return diagnostics
  | none => throw ⟨path, .malformed (Decoders.diagnosticsFault text)⟩

end Diagnostic

end HookMigration
