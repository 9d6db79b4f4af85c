import HookMigration.Config.Resolve
import HookMigration.Console.Transcript
import HookMigration.Runs
import HookMigration.Hooks.Load

/-!
# What is logged

What the steps of a run log, beside what they give: an unfit configuration file, items of a hook file
that are left out, every rule, and the files that are passed over or changed.
-/

namespace HookMigration

/-- An unfit configuration file at a root is passed over with a warning. -/
def Config.loadEvents [Decoders] (t : FileTree) (root : String) : List LogEvent :=
  match read? t root with
  | some (path, .error fault) =>
    [⟨.warn, "hookshift::config", "ignoring invalid config", [("path", path), ("error", fault)]⟩]
  | _ => []

/-- An item of a hook file is left out with a warning. -/
def InvalidEntry.event (e : InvalidEntry) : LogEvent :=
  ⟨.warn, "hookshift::config", "invalid hook entry",
    [("hook", e.entry), ("file", e.path), ("reason", e.reason)]⟩

namespace RuleSet

/-- An entry that makes no rule is passed over with a warning. -/
def skippedEvent (entry : HookEntry) (e : CompileError) : LogEvent :=
  ⟨.warn, "hookshift::ruleset", "skipping hook entry",
    [("entry", entry.old), ("error", e.message)]⟩

/-- A rule is added under an id. -/
def compiledEvent (id : String) (rule : Rule) : LogEvent :=
  ⟨.debug, "hookshift::ruleset", "compiled rule",
    [("rule", id), ("pattern", rule.pattern.text), ("template", rule.template.display)]⟩

/-- The rules and errors of entries are counted in the end. -/
def countedEvent (rules errors : Nat) : LogEvent :=
  ⟨.debug, "hookshift::ruleset", "rule set compiled",
    [("rules", toString rules), ("skipped", toString errors)]⟩

variable [PatternEngine]

/-- What is logged where entries are added to a rule set. -/
def pushEvents (s : RuleSet) : List HookEntry → List LogEvent
  | [] => []
  | entry :: rest =>
    match Rule.compileEntry entry with
    | .ok rule => compiledEvent (s.freeId rule.id) rule :: (s.push rule).pushEvents rest
    | .error e => skippedEvent entry e :: s.pushEvents rest

/-- What is logged where entries are compiled. -/
def compileEvents (entries : List HookEntry) : List LogEvent :=
  let (rules, errors) := compile entries
  empty.pushEvents entries ++ [countedEvent rules.rules.length errors.length]

end RuleSet

/-- What is logged where a hook file is loaded and compiled. -/
def HookFile.events [PatternEngine] (file : HookFile) : List LogEvent :=
  file.invalid.map InvalidEntry.event ++ RuleSet.compileEvents file.entries

/-- A rule replaces its matches in a text. -/
def Rule.rewritingEvent (r : Rule) (hits : Nat) : LogEvent :=
  ⟨.debug, "hookshift::fix", "rewriting", [("rule", r.id), ("hits", toString hits)]⟩

/-- What rules log that are applied to a text one after the other. -/
def rewritingEvents (text : String) : List Rule → List LogEvent
  | [] => []
  | r :: rest =>
    match Pattern.hitCount (r.stretches text) with
    | 0 => rewritingEvents text rest
    | hits + 1 => r.rewritingEvent (hits + 1) :: rewritingEvents (r.replaceAll text) rest

namespace FileTree

/-- A target that is no text is passed over with a warning. -/
def skippedEvent (target : String) (trail : Trail) (e : FileError) : LogEvent :=
  ⟨.warn, target, "skipping file", [("file", trail.path), ("error", e.message)]⟩

/-- What the worker logs that reads a target of a scan. -/
def readEvents (t : FileTree) (trail : Trail) : List LogEvent :=
  match t.textAt trail.place with
  | .ok _ => []
  | .error e => [skippedEvent "hookshift::scan" trail e]

/-- What the worker logs that fixes a target. -/
def fixEvents (t : FileTree) (rules : RuleSet) (strip : Bool) (trail : Trail) : List LogEvent :=
  match t.textAt trail.place with
  | .ok text => rewritingEvents text (rules.eligible strip)
  | .error e => [skippedEvent "hookshift::fix" trail e]

/-- A scan begins. -/
def scanningEvent (targets rules : Nat) : LogEvent :=
  ⟨.debug, "hookshift::scan", "scanning",
    [("files", toString targets), ("rules", toString rules)]⟩

/-- A scan is done. -/
def scannedEvent (found : ScanReport) : LogEvent :=
  ⟨.debug, "hookshift::scan", "scan finished",
    [("files", toString found.files), ("matches", toString found.records.length)]⟩

/-- What a scan of the targets of patterns logs. -/
def scanLog (t : FileTree) (root : String) (rules : RuleSet) (patterns : List String) :
    Transcript :=
  match t.targets root patterns, t.scan root rules patterns with
  | .ok targets, .ok found =>
    .ofLog [scanningEvent targets.length rules.rules.length] ++
      (.ofWorkers (targets.map t.readEvents) ++ .ofLog [scannedEvent found])
  | _, _ => .empty

/-- What a fix of the targets of patterns logs. -/
def fixLog (t : FileTree) (root : String) (rules : RuleSet) (patterns : List String)
    (strip : Bool) : Transcript :=
  match t.targets root patterns with
  | .ok targets => .ofWorkers (targets.map (t.fixEvents rules strip))
  | .error _ => .empty

end FileTree

end HookMigration
