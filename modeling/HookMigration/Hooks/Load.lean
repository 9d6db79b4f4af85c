import HookMigration.Decoder
import HookMigration.Files.Tree
import HookMigration.Hooks.FromJson
import HookMigration.Json.Reader
import HookMigration.RuleSet

/-!
# Loading a hook file

A hook file is read first; then the extension of its name, in any case, says in which format.  Only
a file that cannot be read, or that is not of its format, is an error: an entry that does not fit
is left out and reported beside the others.
-/

namespace HookMigration

/-- The formats of hook files. -/
inductive HookFormat
  | toml
  | yaml
  | json
  deriving DecidableEq, Repr

/-- The format that an extension stands for. -/
def HookFormat.ofExtension? (extension : String) : Option HookFormat :=
  match Text.lowerAscii extension with
  | "toml" => some .toml
  | "yaml" | "yml" => some .yaml
  | "json" => some .json
  | _ => none

/-- Why a hook file cannot be loaded. -/
inductive LoadError
  | unreadable (path : String) (error : FileError)
  | malformed (path : String) (format : HookFormat) (cause : String)
  | unsupported (path : String)
  deriving DecidableEq, Repr

namespace LoadError

/-- The wording of the error. -/
def message : LoadError → String
  | .unreadable path _ => "failed to read " ++ path
  | .malformed path .toml _ => "invalid TOML in " ++ path
  | .malformed path .yaml _ => "invalid YAML in " ++ path
  | .malformed path .json _ => "invalid JSON in " ++ path
  | .unsupported path => "unsupported hook file format: " ++ path

/-- The wording of what lies behind the error. -/
def cause? : LoadError → Option String
  | .unreadable _ error => some error.message
  | .malformed _ _ cause => some cause
  | .unsupported _ => none

end LoadError

namespace HookFile

variable [Decoders]

/-- The hook file that a decoder finds in a text. -/
def ofDecoded (path text : String) (format : HookFormat) (d : Decoder) :
    Except LoadError HookFile :=
  match d.hooks text with
  | .ok values => .ok (ofItems path 1 (values.map d.item))
  | .error cause => .error (.malformed path format cause)

/-- The hook file that a text in a format holds. -/
def ofText (path text : String) : HookFormat → Except LoadError HookFile
  | .toml => ofDecoded path text .toml Decoders.toml
  | .yaml => ofDecoded path text .yaml Decoders.yaml
  | .json =>
    match (Json.read? text).filter (Json.keepsLimits Json.nestingLimit) with
    | none => .error (.malformed path .json (Decoders.jsonFault text))
    | some document =>
      match document.hookItems? with
      | some items => .ok (ofItems path 1 items)
      | none => .error (.unsupported path)

/-- Loads the hook file at a path. -/
def load (t : FileTree) (path : String) : Except LoadError HookFile := do
  let text ← (t.readText path).mapError (.unreadable path)
  match (Path.extension? path).bind HookFormat.ofExtension? with
  | some format => ofText path text format
  | none => throw (.unsupported path)

end HookFile

/-- An entry that makes no rule: it does not fit, or it does not compile. -/
inductive SkippedEntry
  | invalid (e : InvalidEntry)
  | uncompiled (e : CompileError)
  deriving DecidableEq, Repr

namespace SkippedEntry

/-- The old signature of the entry, or its position. -/
def entry : SkippedEntry → String
  | .invalid e => e.entry
  | .uncompiled e => e.entry

/-- The wording of the error. -/
def message : SkippedEntry → String
  | .invalid e => e.message
  | .uncompiled e => e.message

/-- The wording of what lies behind the error, where its message does not say it. -/
def cause? : SkippedEntry → Option String
  | .invalid _ => none
  | .uncompiled e => e.cause?

end SkippedEntry

/-- The rules of a hook file, and every entry that makes none: those that do not fit come before
those that do not compile. -/
def HookFile.compile [PatternEngine] (file : HookFile) : RuleSet × List SkippedEntry :=
  let (rules, errors) := RuleSet.compile file.entries
  (rules, file.invalid.map .invalid ++ errors.map .uncompiled)

end HookMigration
