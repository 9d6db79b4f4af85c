import HookMigration.Pattern.Stretches
import HookMigration.Severity
import HookMigration.Signature.Basic
import HookMigration.Template

/-!
# Rules

A rule recognises an outdated hook and says what to do about it.  A migration replaces each match by
the new signature with the user's own types and names in it; a removal deletes the match.
-/

namespace HookMigration

/-- What became of a hook. -/
inductive Change
  /-- The hook has the given new signature. -/
  | migration (newSignature : String)
  /-- The hook is gone. -/
  | removal
  deriving DecidableEq, Repr

namespace Change

/-- The new signature, if there is one. -/
def newSignature? : Change → Option String
  | .migration new => some new
  | .removal => none

/-- Whether the hook is gone. -/
def isRemoval : Change → Bool
  | .migration _ => false
  | .removal => true

/-- The word for the kind of change. -/
def kind : Change → String
  | .migration _ => "migration"
  | .removal => "removal"

end Change

/-- A compiled rule. -/
structure Rule where
  id : String
  hook : String
  oldSignature : String
  change : Change
  pattern : Pattern
  template : Template
  message : String
  severity : Severity
  deriving DecidableEq, Repr

namespace Rule

/-- The id of a rule that is the first of its hook. -/
def baseId (hook : String) : String :=
  hook ++ "Error"

/-- A short name for what a rule finds. -/
def title (r : Rule) : String :=
  r.hook ++ " detected"

/-- Whether the rule only deletes. -/
def isRemoval (r : Rule) : Bool :=
  r.change.isRemoval

/-- The replacement for one match. -/
def replacementFor (r : Rule) (m : Pattern.Match) : String :=
  r.template.render m.captured

/-- The stretches of a text under a rule's pattern. -/
def stretches (r : Rule) (text : String) : List Pattern.Stretch :=
  r.pattern.stretches text.toList

/-- A text with every match of a rule replaced. -/
def replaceAll (r : Rule) (text : String) : String :=
  String.ofList
    (Pattern.replaceHits (fun m => (r.replacementFor m).toList) (r.stretches text))

end Rule

end HookMigration
