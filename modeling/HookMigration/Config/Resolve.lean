import HookMigration.Decoder
import HookMigration.Files.Tree

/-!
# Finding the configuration

The root of a repository is the nearest folder, from a start upwards, that holds a configuration file
or a repository marker; the start itself where there is none.  Going up is a matter of the path
alone.  Of several configuration files at the root only the first counts, even if it is unfit.
-/

namespace HookMigration

namespace Config

/-- The configuration files in the order in which they count. -/
def fileNames : List String :=
  ["hookshift.toml", "hookshift.yaml", "hookshift.yml"]

/-- What a root is known by. -/
def rootMarkers : List String :=
  fileNames ++ [".git"]

/-- Whether a folder is marked as a root. -/
def isMarked (t : FileTree) (folder : String) : Bool :=
  rootMarkers.any fun marker => t.holds (Path.join folder marker)

/-- The root for a start. -/
def detectRoot (t : FileTree) (start : String) : String :=
  ((Path.ancestors start).find? (isMarked t)).getD start

variable [Decoders]

/-- The configuration in a text; the name of its file says in which format. -/
def ofText (name text : String) : Except String Config :=
  if name = "hookshift.toml" then Decoders.toml.config text else Decoders.yaml.config text

/-- The path of the first configuration file at a root, and what it says, if it can be read. -/
def read? (t : FileTree) (root : String) : Option (String × Except String Config) := do
  let name ← fileNames.find? fun name => t.holds (Path.join root name)
  let text ← (t.readText (Path.join root name)).toOption
  return (Path.join root name, ofText name text)

/-- The configuration at a root, if the first file that counts is fit. -/
def load? (t : FileTree) (root : String) : Option Config :=
  (read? t root).bind fun (_, config) => config.toOption

/-- The start where none is named. -/
def defaultStart : String := "."

/-- The settings of a run. -/
def resolve (t : FileTree) (o : Overrides) : Effective :=
  let root := detectRoot t (o.repoRoot.getD defaultStart)
  merge root o ((load? t root).getD .empty)

end Config

/-- The path of the hook file. -/
def Effective.rulesPath (e : Effective) : String :=
  Path.join e.repoRoot e.rules

end HookMigration
