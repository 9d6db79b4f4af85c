import HookMigration.PlainDecoders
import HookMigration.Program

/-!
# The executable

Takes a snapshot of the working folder, runs the command line on it, writes the files that the run
changed, and prints.  Links are passed over, and files outside of the working folder are not seen.
-/

namespace HookMigration

/-- The path of a place. -/
def Place.path (place : Place) : String :=
  Path.ofComponents (.root :: place.map .name)

/-- The place of an absolute path. -/
def Place.ofPath (path : String) : Place :=
  (Path.components path).foldl Trail.arrive []

/-- What a folder below the working folder holds, added to what was found before; `place` is the way
to it from there. -/
partial def snapshotFrom (place : Place) (found : FileTree) : IO FileTree := do
  let mut found := found
  let folder := place.foldl (· / ·) (← IO.currentDir)
  for entry in ← folder.readDir do
    let place := place ++ [entry.fileName]
    match (← entry.path.symlinkMetadata).type with
    | .dir =>
      found ← snapshotFrom place { found with folders := (found.home ++ place) :: found.folders }
    | .file =>
      let bytes ← IO.FS.readBinFile entry.path
      found := { found with files := (found.home ++ place, bytes) :: found.files }
    | _ => pure ()
  return found

/-- The files and folders below the working folder. -/
def snapshot : IO FileTree := do
  snapshotFrom [] ⟨[], [], Place.ofPath (← IO.currentDir).toString⟩

/-- Writes the files whose content a run changed.  A run keeps the order of the files. -/
def writeChanges (before after : FileTree) : IO Unit := do
  for ((place, old), (_, new)) in before.files.zip after.files do
    if old != new then IO.FS.writeBinFile (Place.path place) new

end HookMigration

section

attribute [local instance] HookMigration.PatternEngine.usual HookMigration.Decoders.plain

open HookMigration in
/-- Runs the program. -/
def main (arguments : List String) : IO UInt32 := do
  let before ← snapshot
  let env := Environment.usual (← IO.getEnv "NO_COLOR")
  let effects := CommandLine.execute env before arguments
  writeChanges before effects.tree
  (← IO.getStdout).putStr effects.stdout
  (← IO.getStderr).putStr effects.stderr
  return effects.exitCode.toUInt32

end
