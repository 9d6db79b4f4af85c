import HookMigration.Files.Targets
import HookMigration.Fix
import HookMigration.LineDiff
import HookMigration.Scan

/-!
# Runs over files

A scan and a fix take the target files of patterns in turn.  A file that is no text is passed over.
Reports name a file by its path relative to the root.  A fix reads all targets before it writes any.
-/

namespace HookMigration

namespace FileTree

/-- The targets that are texts, under the names that reports show. -/
def sources (t : FileTree) (root : String) (targets : List Trail) : List (Trail × Source) :=
  targets.filterMap fun trail =>
    match t.textAt trail.place with
    | .ok text => some (trail, ⟨Path.display root trail.path, text⟩)
    | .error _ => none

/-- The scan of the targets of patterns. -/
def scan (t : FileTree) (root : String) (rules : RuleSet) (patterns : List String) :
    Except Glob.PatternError ScanReport := do
  let sources := (t.sources root (← t.targets root patterns)).map (·.2)
  return ⟨sources.length, rules.scanSources sources⟩

end FileTree

/-- How a fix is to be done. -/
structure FixMode where
  write : Bool
  keepsBefore : Bool
  strip : Bool
  deriving DecidableEq, Repr

namespace FixResult

/-- The result for one source, given what its fix made. -/
def ofFixed (mode : FixMode) (source : Source) (f : Fixed) : FixResult where
  file := source.name
  changed := f.text != source.text
  replacements := f.replacements
  preview := if f.text != source.text && !mode.write then some f.text else none
  before := if mode.keepsBefore then some source.text else none
  error := none

/-- Results in the order of the names of their files. -/
def sorted (results : List FixResult) : List FixResult :=
  results.mergeSort fun a b => a.file ≤ b.file

end FixResult

namespace FileTree

/-- The tree with the fixed text of a changed file in it. -/
def writeFixed (t : FileTree) (trail : Trail) (source : Source) (f : Fixed) : FileTree :=
  if f.text != source.text then t.write trail.place f.text else t

/-- The fix of the targets of patterns: the results by file, and the tree afterwards. -/
def fix (t : FileTree) (root : String) (rules : RuleSet) (patterns : List String)
    (mode : FixMode) : Except Glob.PatternError (List FixResult × FileTree) := do
  let sources := t.sources root (← t.targets root patterns)
  let results := sources.map fun (_, source) =>
    .ofFixed mode source (rules.fix source.text mode.strip)
  let after :=
    if mode.write then
      sources.foldl (fun t (trail, source) =>
        t.writeFixed trail source (rules.fix source.text mode.strip)) t
    else t
  return (FixResult.sorted results, after)

end FileTree

end HookMigration
