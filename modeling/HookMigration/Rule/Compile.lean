import HookMigration.Rule.Basic
import HookMigration.Rule.Migration
import HookMigration.Rule.Removal
import HookMigration.Signature.Parser

/-!
# Compiling a configured hook

A hook entry is an old signature and, for a hook that still exists, a new one; a blank new signature
is none.  A migration needs two signatures that can be read; a removal needs only a name.  The pattern
of a rule has to be one that the engine for patterns accepts.
-/

namespace HookMigration

/-- A hook change as it is configured. -/
structure HookEntry where
  old : String
  new : Option String
  severity : Option Severity
  message : Option String
  deriving DecidableEq, Repr

namespace HookEntry

/-- An entry with the two signatures alone. -/
def ofSignatures (old : String) (new : Option String) : HookEntry :=
  ⟨old, new, none, none⟩

end HookEntry

/-- The engine that runs patterns.  It refuses those whose compiled form is too large, and where its
limit lies is left open. -/
class PatternEngine where
  accepts : Pattern → Bool

/-- An engine that accepts up to 250 parameters.  The limit of 10 MiB on a compiled pattern lies
somewhere between 200 and 300 of them, since next to their captures nothing counts. -/
@[reducible]
def PatternEngine.usual : PatternEngine where
  accepts p := p.captureCount ≤ 2 * 250

/-- Why an entry makes no rule. -/
inductive CompileError
  /-- A signature of the entry `old` cannot be read. -/
  | unreadable (old : String) (error : ParseError)
  /-- The pattern of the rule `id` is too large. -/
  | tooLarge (old : String) (id : String)
  deriving DecidableEq, Repr

namespace CompileError

/-- The old signature of the entry. -/
def entry : CompileError → String
  | .unreadable old _ => old
  | .tooLarge old _ => old

/-- The wording of the error. -/
def message : CompileError → String
  | .unreadable old error => "hook '" ++ old ++ "': " ++ error.message
  | .tooLarge old id => "hook '" ++ old ++ "': rule '" ++ id ++ "' produced an invalid pattern"

/-- The wording of what lies behind the error, where its message does not say it. -/
def cause? : CompileError → Option String
  | .unreadable _ _ => none
  | .tooLarge _ _ => some "Compiled regex exceeds size limit of 10485760 bytes."

end CompileError

namespace Rule

/-- The rule for a hook that is gone, given the text of its old signature. -/
def removal (old : String) : Rule :=
  let hook := Signature.hookName old
  { id := baseId hook
    hook := hook
    oldSignature := old
    change := .removal
    pattern := Removal.pattern old
    template := .empty
    message := "Hook '" ++ hook ++ "' is no longer supported; remove '" ++ old ++ "'"
    severity := .error }

@[simp] theorem removal_pattern (old : String) :
    (removal old).pattern = Removal.pattern old := rfl

/-- The rule for a hook that has a new signature, given the texts of both and what they say. -/
def migration (old new : String) (oldSignature newSignature : Signature) : Rule :=
  let hook := oldSignature.name
  { id := baseId hook
    hook := hook
    oldSignature := old
    change := .migration new
    pattern := Migration.pattern oldSignature
    template := Migration.template oldSignature newSignature
    message := "Hook '" ++ hook ++ "' is from an older API version; replace '" ++ old ++
      "' with '" ++ new ++ "'"
    severity := .error }

@[simp] theorem migration_pattern (old new : String) (oldSignature newSignature : Signature) :
    (migration old new oldSignature newSignature).pattern = Migration.pattern oldSignature := rfl

variable [PatternEngine]

/-- A rule, if the engine accepts its pattern. -/
def accepted (r : Rule) : Except CompileError Rule :=
  if PatternEngine.accepts r.pattern then .ok r else .error (.tooLarge r.oldSignature r.id)

/-- The rule for a hook that is gone. -/
def compileRemoval (old : String) : Except CompileError Rule :=
  let old := Text.trimmed old
  if Signature.hookName old = "" then .error (.unreadable old ⟨.missingHookName, old⟩)
  else accepted (removal old)

/-- The rule for a hook that has the new signature `new`. -/
def compileMigration (old new : String) : Except CompileError Rule := do
  let trimmedOld := Text.trimmed old
  let oldSignature ← (Signature.parse old).mapError (.unreadable trimmedOld)
  let newSignature ← (Signature.parse new).mapError (.unreadable trimmedOld)
  accepted (migration trimmedOld new oldSignature newSignature)

/-- The rule for an old signature and an optional new one. -/
def compile (old : String) (new : Option String) : Except CompileError Rule :=
  match (new.map Text.trimmed).filter (· ≠ "") with
  | none => compileRemoval old
  | some new => compileMigration old new

/-- The rule for a configured entry, with the entry's own severity and message. -/
def compileEntry (entry : HookEntry) : Except CompileError Rule := do
  let rule ← compile entry.old entry.new
  return { rule with
    severity := entry.severity.getD rule.severity
    message := entry.message.getD rule.message }

end Rule

end HookMigration
