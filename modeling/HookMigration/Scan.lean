import HookMigration.Record
import HookMigration.RuleSet
import HookMigration.Text.Position

/-!
# Scanning texts

Each match of a rule in a text becomes a record with its span, its place, its text and its
replacement.  The records of several rules are merged by the beginning of their spans; where two
begin together, the rule that was configured first comes first.
-/

namespace HookMigration

/-- A named text. -/
structure Source where
  name : String
  text : String
  deriving DecidableEq, Repr

namespace Rule

/-- The record of a match that begins at a cursor. -/
def record (r : Rule) (file : Option String) (cursor : Text.Cursor) (m : Pattern.Match) :
    Record where
  ruleId := r.id
  span := some ⟨cursor.offset, (cursor.advanceOver m.matched).offset⟩
  location := ⟨file, cursor.line, cursor.column⟩
  matchedText := some (String.ofList m.matched)
  suggestedReplacement := some (r.replacementFor m)
  message := r.message
  severity := r.severity

/-- The records of the matches among stretches that begin at a cursor. -/
def recordsFrom (r : Rule) (file : Option String) (cursor : Text.Cursor) :
    List Pattern.Stretch → List Record
  | [] => []
  | .plain c :: rest => r.recordsFrom file (cursor.advance c) rest
  | .hit m :: rest => r.record file cursor m :: r.recordsFrom file (cursor.advanceOver m.matched) rest

/-- The records of a rule in a text. -/
def records (r : Rule) (file : Option String) (text : String) : List Record :=
  r.recordsFrom file .start (r.stretches text)

end Rule

namespace RuleSet

/-- The records of all rules in a text, in the order of their places. -/
def scan (s : RuleSet) (text : String) (file : Option String) : List Record :=
  (s.rules.flatMap fun r => r.records file text).mergeSort fun a b => a.offset ≤ b.offset

/-- The records of all rules in each of several sources, in the order of the sources. -/
def scanSources (s : RuleSet) (sources : List Source) : List Record :=
  sources.flatMap fun source => s.scan source.text (some source.name)

end RuleSet

end HookMigration
