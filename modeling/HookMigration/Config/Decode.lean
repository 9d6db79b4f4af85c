import HookMigration.Config.Basic
import HookMigration.Hooks.FromToml
import HookMigration.Yaml.Checks

/-!
# Decoding configuration files

Unknown keys are ignored, and a value of a wrong type anywhere makes the whole file unfit.  In YAML a
plain word stands for nothing where a setting may be missing, and any scalar for its own text where
a text is asked for.
-/

namespace HookMigration

/-- A field that may be missing, read where it is there. -/
def readField? (read : Value → Option α) : Option Value → Option (Option α)
  | none => some none
  | some value => (read value).map some

namespace Toml

/-- A text. -/
def text? : Toml → Option String
  | .string s => some s
  | _ => none

/-- A list of texts. -/
def texts? : Toml → Option (List String)
  | .array items => items.mapM text?
  | _ => none

/-- A truth value. -/
def boolean? : Toml → Option Bool
  | .boolean b => some b
  | _ => none

/-- A severity. -/
def severity? (value : Toml) : Option Severity :=
  match value.toSeverity with
  | .ok severity => some severity
  | .error _ => none

/-- The settings for fixing: a table, or a list that begins with all four values. -/
def fixConfig? : Toml → Option FixConfig
  | .table entries => do
    let write ← readField? boolean? (entries.lookup "write")
    let diff ← readField? boolean? (entries.lookup "diff")
    let check ← readField? boolean? (entries.lookup "check")
    let strip ← readField? boolean? (entries.lookup "strip")
    return ⟨write, diff, check, strip⟩
  | .array (.boolean write :: .boolean diff :: .boolean check :: .boolean strip :: _) =>
    some ⟨some write, some diff, some check, some strip⟩
  | _ => none

/-- The configuration that a document holds. -/
def config? (entries : List (String × Toml)) : Option Config := do
  let rules ← readField? text? (entries.lookup "rules")
  let patterns ← readField? texts? (entries.lookup "patterns")
  let output ← readField? text? (entries.lookup "output")
  let minSeverity ← readField? severity? (entries.lookup "minSeverity")
  let fix ← readField? fixConfig? (entries.lookup "fix")
  return ⟨rules, patterns, output, minSeverity, fix⟩

end Toml

namespace Yaml

/-- The text of a scalar, whatever it could stand for. -/
def text? : Yaml → Option String
  | .scalar text _ => some text
  | _ => none

/-- A list of texts. -/
def texts? : Yaml → Option (List String)
  | .sequence items => items.mapM text?
  | _ => none

/-- A truth value. -/
def truth? (value : Yaml) : Option Bool :=
  match value.scalar? with
  | some (.boolean b) => some b
  | _ => none

/-- A severity. -/
def severity? (value : Yaml) : Option Severity :=
  value.text?.bind Severity.ofKeyword?

/-- A value, unless it stands for nothing. -/
def orNothing? (read : Yaml → Option α) (value : Yaml) : Option (Option α) :=
  if value.scalar? = some .null then some none else (read value).map some

/-- A field that may be missing, repeated never, or be nothing. -/
def readField? (fields : List (String × Yaml)) (name : String) (read : Yaml → Option α) :
    Option (Option α) := do
  match ← uniqueField? fields name with
  | none => return none
  | some value => orNothing? read value

/-- The settings for fixing. -/
def fixConfig? : Yaml → Option FixConfig
  | .mapping entries => do
    let fields ← fieldsOf? entries
    let write ← readField? fields "write" truth?
    let diff ← readField? fields "diff" truth?
    let check ← readField? fields "check" truth?
    let strip ← readField? fields "strip" truth?
    return ⟨write, diff, check, strip⟩
  | _ => none

/-- The configuration that a document holds. -/
def config? (document : Option Yaml) : Option Config := do
  let fields ← recordFields? document
  let rules ← readField? fields "rules" text?
  let patterns ← readField? fields "patterns" texts?
  let output ← readField? fields "output" text?
  let minSeverity ← readField? fields "minSeverity" severity?
  let fix ← readField? fields "fix" fixConfig?
  return ⟨rules, patterns, output, minSeverity, fix⟩

end Yaml

end HookMigration
