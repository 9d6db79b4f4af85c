import HookMigration.Text.Lines
import HookMigration.Text.Trim

/-!
# Line diffs

Two texts with equally many lines are compared line by line: a line that both have stands behind two
spaces, a line that changed appears behind `- ` as it was and behind `+ ` as it is.  Other texts are
shown whole, the new one before the old one.
-/

namespace HookMigration.LineDiff

/-- One pair of lines. -/
def pairLines (old new : List Char) : List Char :=
  if old = new then "  ".toList ++ old ++ ['\n']
  else "- ".toList ++ old ++ "\n+ ".toList ++ new ++ ['\n']

/-- Lines in pairs. -/
def pairs : List (List Char) → List (List Char) → List Char
  | old :: olds, new :: news => pairLines old new ++ pairs olds news
  | _, _ => []

/-- The two texts one after the other. -/
def blocks (old new : List Char) : List Char :=
  "+++ new\n".toList ++ new ++ "\n--- old\n".toList ++ old

/-- The diff of two texts. -/
def ofTexts (old new : String) : String :=
  let oldLines := Text.lines old.toList
  let newLines := Text.lines new.toList
  String.ofList
    (if oldLines.length = newLines.length then pairs oldLines newLines
    else blocks old.toList new.toList)

/-- The diff of two texts that may be missing. -/
def ofTexts? : Option String → Option String → Option String
  | some old, some new => some (ofTexts old new)
  | _, _ => none

end HookMigration.LineDiff
