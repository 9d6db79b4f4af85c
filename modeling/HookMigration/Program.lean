import HookMigration.Console.Usage
import HookMigration.DiagnosticFile
import HookMigration.Events

/-!
# The program

A run of the program takes files and a command line, and gives what is printed, an exit code, and
the files afterwards; the environment of the run decides how the printed is shown.  Every command but
`version` finds its settings, loads the hook file and compiles it; entries that make no rule are
reported and passed over.

The exit code is 0 where all is well, 1 where a scan or a report finds an error or a check finds a
change, and 2 where the run cannot be done.
-/

namespace HookMigration

/-- Why a run cannot be done. -/
inductive RunError
  | hooks (e : LoadError)
  | pattern (e : Glob.PatternError)
  | diagnostics (e : DiagnosticFileError)
  deriving DecidableEq, Repr

/-- The wording of the error. -/
def RunError.message : RunError → String
  | .hooks e => withCause e.message e.cause?
  | .pattern e => e.message
  | .diagnostics e => withCause e.message e.cause?

/-- What a run leads to. -/
structure Outcome where
  exitCode : Nat
  printed : Transcript
  tree : FileTree

/-- What a run of the program leaves: its exit code, the text of its standard output and of its
error output, and the files. -/
structure Effects where
  exitCode : Nat
  stdout : String
  stderr : String
  tree : FileTree

namespace Outcome

/-- What is seen of an outcome in an environment. -/
def effects (env : Environment) (o : Outcome) : Effects where
  exitCode := o.exitCode
  stdout := env.stdout o.printed
  stderr := env.stderr o.printed
  tree := o.tree

/-- A run that cannot be done. -/
def failed (t : FileTree) (e : RunError) : Outcome :=
  ⟨2, .ofErr [.failure e.message], t⟩

/-- An outcome that was preceded by other output. -/
def after (printed : Transcript) (o : Outcome) : Outcome :=
  { o with printed := printed ++ o.printed }

/-- The outcome of a computation that may fail. -/
def ofExcept (t : FileTree) : Except RunError Outcome → Outcome
  | .ok outcome => outcome
  | .error e => failed t e

end Outcome

/-- Rules and the entries that make none. -/
structure LoadedRules where
  rules : RuleSet
  skipped : List SkippedEntry

namespace Effective

/-- Whether a fix writes: where a diff or a check is asked for it never does. -/
def writes (e : Effective) : Bool :=
  e.write && !(e.diff || e.check)

/-- How a fix is to be done. -/
def fixMode (e : Effective) : FixMode :=
  ⟨e.writes, e.diff || e.check, e.strip⟩

/-- The exit code of a fix. -/
def fixCode (e : Effective) (results : List FixResult) : Nat :=
  if results.any (·.error.isSome) then 2
  else if e.check && results.any (·.changed) then 1
  else 0

variable [PatternEngine] [Decoders]

/-- The remark that no configuration file was found, if there is none that is fit. -/
def remarks (e : Effective) (t : FileTree) : Transcript :=
  .ofLog (Config.loadEvents t e.repoRoot) ++
    if (Config.load? t e.repoRoot).isNone then
      .ofErr [.remark "No hookshift.toml found; using defaults."]
    else .empty

/-- Loads the rules and runs on with them. -/
def withRules (e : Effective) (t : FileTree)
    (run : LoadedRules → Except RunError Outcome) : Outcome :=
  .after (e.remarks t) <| .ofExcept t <|
    match HookFile.load t e.rulesPath with
    | .error error => throw (.hooks error)
    | .ok file =>
      let (rules, skipped) := file.compile
      return .after (.ofLog file.events) (.ofExcept t (run ⟨rules, skipped⟩))

/-- Loads the rules, warns about the entries that make none, and runs on. -/
def warningOfSkipped (e : Effective) (t : FileTree)
    (run : RuleSet → Except RunError Outcome) : Outcome :=
  e.withRules t fun loaded =>
    return .after (skippedTranscript loaded.skipped) (.ofExcept t (run loaded.rules))

/-- Scans the target files. -/
def scan (e : Effective) (t : FileTree) : Outcome :=
  e.warningOfSkipped t fun rules => do
    let found ← (t.scan e.repoRoot rules e.patterns).mapError .pattern
    let code := if (found.errors e.minSeverity).isEmpty then 0 else 1
    return ⟨code, t.scanLog e.repoRoot rules e.patterns ++
      (found.result e.minSeverity).transcript e.output, t⟩

/-- Fixes the target files. -/
def fix (e : Effective) (t : FileTree) : Outcome :=
  e.warningOfSkipped t fun rules => do
    let (results, after) ← (t.fix e.repoRoot rules e.patterns e.fixMode).mapError .pattern
    return ⟨e.fixCode results, t.fixLog e.repoRoot rules e.patterns e.strip ++
      fixTranscript results e.output e.writes e.diff, after⟩

/-- Reports on diagnostics. -/
def report (e : Effective) (t : FileTree) (diagnostics : String) : Outcome :=
  e.warningOfSkipped t fun rules => do
    let found ← (Diagnostic.load t (Path.join e.repoRoot diagnostics)).mapError .diagnostics
    let errors := HookMigration.report (rules.recordsOf found) e.minSeverity
    return ⟨if errors.isEmpty then 0 else 1, reportTranscript errors e.output, t⟩

/-- Lists the rules. -/
def listRules (e : Effective) (t : FileTree) : Outcome :=
  e.withRules t fun loaded =>
    return ⟨0, rulesTranscript loaded.rules loaded.skipped e.output, t⟩

end Effective

namespace Command

/-- An option that is only ever switched on. -/
def switchedOn (given : Bool) : Option Bool :=
  if given then some true else none

/-- What a command line says about the settings. -/
def overrides : Command → Overrides
  | .version => .empty
  | .scan common patterns minSeverity =>
    { ofCommon common with patterns := patterns, minSeverity := minSeverity }
  | .fix common patterns write diff check strip =>
    { ofCommon common with
      patterns := patterns
      write := switchedOn write
      diff := switchedOn diff
      check := switchedOn check
      strip := switchedOn strip }
  | .report common _ minSeverity => { ofCommon common with minSeverity := minSeverity }
  | .rules common => ofCommon common
where
  /-- What the common options say. -/
  ofCommon (common : CommonOptions) : Overrides :=
    { Overrides.empty with
      repoRoot := common.repoRoot
      rules := common.rules
      output := common.output }

variable [PatternEngine] [Decoders]

/-- Finds the settings of a command and runs on with them. -/
def withSettings (c : Command) (t : FileTree) (run : Effective → Outcome) : Outcome :=
  let settings := Config.resolve t c.overrides
  .after (.ofLog (Config.loadEvents t settings.repoRoot)) (run settings)

/-- Runs a command. -/
def run (c : Command) (t : FileTree) : Outcome :=
  match c with
  | .version => ⟨0, .ofOut [.plain programVersion], t⟩
  | .scan .. => c.withSettings t fun e => e.scan t
  | .fix .. => c.withSettings t fun e => e.fix t
  | .report _ diagnostics _ => c.withSettings t fun e => e.report t diagnostics
  | .rules _ => c.withSettings t fun e => e.listRules t

end Command

namespace CommandLine

variable [PatternEngine] [Decoders]

/-- Runs a command line. -/
def run (t : FileTree) (arguments : List String) : Outcome :=
  match read arguments with
  | .ok command => command.run t
  | .error stop => ⟨if stop.isAnswer then 0 else 2, stop.transcript, t⟩

/-- Runs a command line in an environment. -/
def execute (env : Environment) (t : FileTree) (arguments : List String) : Effects :=
  (run t arguments).effects env

end CommandLine

end HookMigration
