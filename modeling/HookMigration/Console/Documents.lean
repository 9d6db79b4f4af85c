import HookMigration.Hooks.Load
import HookMigration.Json.Basic
import HookMigration.LineDiff
import HookMigration.Fix
import HookMigration.Record

/-!
# JSON documents

What each command prints in its JSON form.
-/

namespace HookMigration

/-- A severity by its name. -/
def Severity.json (s : Severity) : Json := .string s.name

/-- A place; an unknown file is left out. -/
def Location.json (l : Location) : Json :=
  .object (Json.member? "file" .string l.file ++ [("line", .nat l.line), ("column", .nat l.column)])

/-- A record; what it does not have is left out. -/
def Record.json (r : Record) : Json :=
  .object
    ([("rule_id", .string r.ruleId)] ++
      Json.member? "span" (fun s => .array [.nat s.start, .nat s.stop]) r.span ++
      [("location", r.location.json)] ++
      Json.member? "matched_text" .string r.matchedText ++
      Json.member? "suggested_replacement" .string r.suggestedReplacement ++
      [("message", .string r.message), ("severity", r.severity.json)])

/-- A reported error. -/
def ReportedError.json (e : ReportedError) : Json :=
  .object [("line", .nat e.line), ("column", .nat e.column), ("text", .string e.text),
    ("location", e.location.json)]

/-- An issue; a match and a replacement that are not known are left out. -/
def Issue.json (i : Issue) : Json :=
  .object
    ([("file", .string i.file), ("rule", .string i.rule), ("severity", i.severity.json),
        ("line", .nat i.line), ("column", .nat i.column), ("message", .string i.message)] ++
      Json.member? "matched" .string i.matched ++
      Json.member? "replacement" .string i.replacement)

/-- A summary. -/
def Summary.json (s : Summary) : Json :=
  .object [("errors", .nat s.errors), ("warnings", .nat s.warnings), ("infos", .nat s.infos),
    ("files", .nat s.files)]

/-- What a scan shows. -/
def ScanResult.json (s : ScanResult) : Json :=
  .object [("issues", .array (s.issues.map Issue.json)), ("summary", s.summary.json)]

/-- A report. -/
def reportJson (errors : List ReportedError) : Json :=
  .object [("errors", .array (errors.map ReportedError.json)),
    ("summary", .object [("errors", .nat errors.length)])]

/-- The result of a fix for one file. -/
def FixResult.json (write diff : Bool) (r : FixResult) : Json :=
  .object [("file", .string r.file), ("changed", .boolean r.changed),
    ("replacements", .nat r.replacements), ("wrote", .boolean (r.wrote write)),
    ("error", .optional .string r.error),
    ("preview", .optional .string (if write then none else r.preview)),
    ("diff", .optional .string
      (if diff && !write then LineDiff.ofTexts? r.before r.preview else none))]

/-- The results of a fix, with their counts. -/
def fixJson (results : List FixResult) (write diff : Bool) : Json :=
  .object [("results", .array (results.map (FixResult.json write diff))),
    ("summary", .object [("changed", .nat (results.countP (·.changed))),
      ("total", .nat results.length),
      ("wrote", .nat (results.countP (·.wrote write))),
      ("failed", .nat (results.countP (·.error.isSome)))])]

/-- A rule. -/
def Rule.json (r : Rule) : Json :=
  .object [("id", .string r.id), ("hook", .string r.hook), ("kind", .string r.change.kind),
    ("severity", r.severity.json), ("old", .string r.oldSignature),
    ("new", .optional .string r.change.newSignature?), ("pattern", .string r.pattern.text),
    ("replacement", .string r.template.display), ("message", .string r.message)]

/-- An entry that makes no rule. -/
def SkippedEntry.json (e : SkippedEntry) : Json :=
  .object [("entry", .string e.entry), ("error", .string e.message)]

/-- The rules of a rule set and the entries that make none. -/
def rulesJson (rules : RuleSet) (skipped : List SkippedEntry) : Json :=
  .object [("rules", .array (rules.rules.map Rule.json)),
    ("skipped", .array (skipped.map SkippedEntry.json))]

end HookMigration
