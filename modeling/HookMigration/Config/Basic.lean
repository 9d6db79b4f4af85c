import HookMigration.Severity

/-!
# Settings

A run is governed by settings from three sources: the command line, a configuration file, and
defaults.  `Overrides` and `Config` hold what the first two say, and `Effective` is what results.
-/

namespace HookMigration

/-- What a configuration file says about fixing. -/
structure FixConfig where
  write : Option Bool
  diff : Option Bool
  check : Option Bool
  strip : Option Bool
  deriving DecidableEq, Repr

/-- Nothing said about fixing. -/
def FixConfig.empty : FixConfig := ⟨none, none, none, none⟩

/-- What a configuration file says. -/
structure Config where
  rules : Option String
  patterns : Option (List String)
  output : Option String
  minSeverity : Option Severity
  fix : Option FixConfig
  deriving DecidableEq, Repr

/-- A configuration file that says nothing. -/
def Config.empty : Config := ⟨none, none, none, none, none⟩

/-- What the command line says.  Patterns are given or left out by naming at least one or none. -/
structure Overrides where
  repoRoot : Option String
  rules : Option String
  output : Option String
  minSeverity : Option Severity
  patterns : List String
  write : Option Bool
  diff : Option Bool
  check : Option Bool
  strip : Option Bool
  deriving DecidableEq, Repr

/-- A command line that says nothing. -/
def Overrides.empty : Overrides := ⟨none, none, none, none, [], none, none, none, none⟩

/-- The settings of a run. -/
structure Effective where
  repoRoot : String
  rules : String
  patterns : List String
  output : String
  minSeverity : Severity
  write : Bool
  diff : Bool
  check : Bool
  strip : Bool
  deriving DecidableEq, Repr

namespace Config

/-- The hook file where none is named. -/
def defaultRules : String := "hooks.toml"

/-- The patterns where none is given. -/
def defaultPatterns : List String := ["**/*.cs"]

/-- The form of output where none is named. -/
def defaultOutput : String := "human"

/-- Patterns that are given: an empty list counts as none. -/
def givenPatterns (patterns : List String) : Option (List String) :=
  if patterns.isEmpty then none else some patterns

/-- The settings that result from a command line and a configuration file at a root.  The command
line wins over the file, and the file over the defaults, each setting on its own. -/
def merge (root : String) (o : Overrides) (c : Config) : Effective :=
  let fix := c.fix.getD .empty
  { repoRoot := root
    rules := (o.rules.or c.rules).getD defaultRules
    patterns :=
      ((givenPatterns o.patterns).or (c.patterns.bind givenPatterns)).getD defaultPatterns
    output := (o.output.or c.output).getD defaultOutput
    minSeverity := (o.minSeverity.or c.minSeverity).getD .error
    write := (o.write.or fix.write).getD false
    diff := (o.diff.or fix.diff).getD false
    check := (o.check.or fix.check).getD false
    strip := (o.strip.or fix.strip).getD false }

end Config

end HookMigration
