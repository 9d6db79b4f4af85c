import HookMigration.Files.Path

/-!
# File trees

The files and folders that there are, as a value, and the folder in which a program works.  A file or
folder is named by the names on the way to it from the root of all files.  A folder exists if it is
listed, or if anything lies below it, or if it leads to the working folder.

Paths are looked up step by step, as an operating system does: from the root or from the working
folder, each step needs a folder to start from, `..` stays at the root, and an empty path names
nothing.
-/

namespace HookMigration

/-- The names on the way from the root of all files. -/
abbrev Place := List String

/-- A list in order with one more item, unless one that is neither before nor behind it is among
them. -/
def insertInOrder (before : α → α → Bool) (a : α) : List α → List α
  | [] => [a]
  | b :: rest =>
    if before a b then a :: b :: rest
    else if before b a then b :: insertInOrder before a rest
    else b :: rest

/-- Why a file cannot be read as text. -/
inductive FileError
  | notFound
  | notFolder
  | isFolder
  | notText
  deriving DecidableEq, Repr

/-- The wording of a file error. -/
def FileError.message : FileError → String
  | .notFound => "No such file or directory (os error 2)"
  | .notFolder => "Not a directory (os error 20)"
  | .isFolder => "Is a directory (os error 21)"
  | .notText => "stream did not contain valid UTF-8"

/-- Files and folders, and the working folder among them. -/
structure FileTree where
  files : List (Place × ByteArray)
  folders : List Place
  home : Place

namespace FileTree

/-- The bytes of the file at a place. -/
def file? (t : FileTree) (place : Place) : Option ByteArray :=
  t.files.lookup place

/-- Whether a file lies at a place. -/
def isFile (t : FileTree) (place : Place) : Bool :=
  (t.file? place).isSome

/-- Whether a folder lies at a place. -/
def isFolder (t : FileTree) (place : Place) : Bool :=
  place.isPrefixOf t.home || t.folders.any (place.isPrefixOf ·) ||
    t.files.any fun (file, _) => place.isPrefixOf file && place != file

/-- Whether anything lies at a place. -/
def existsAt (t : FileTree) (place : Place) : Bool :=
  t.isFile place || t.isFolder place

/-- Why there is no way on from a place that is no folder. -/
def blockedAt (t : FileTree) (place : Place) : FileError :=
  if t.isFile place then .notFolder else .notFound

/-- The place that pieces of a path lead to from a place. -/
def walk (t : FileTree) (place : Place) : List String → Except FileError Place
  | [] => .ok place
  | piece :: rest =>
    if t.isFolder place then
      if Path.isIdle piece then t.walk place rest
      else if piece = ".." then t.walk place.dropLast rest
      else t.walk (place ++ [piece]) rest
    else .error (t.blockedAt place)

/-- The place at which a way begins. -/
def origin (t : FileTree) (absolute : Bool) : Place :=
  if absolute then [] else t.home

/-- The place of an existing file or folder by its path. -/
def find (t : FileTree) (path : String) : Except FileError Place :=
  if path = "" then .error .notFound
  else do
    let place ← t.walk (t.origin (Path.isAbsolute path)) (Path.piecesOf path)
    if t.existsAt place then return place else throw .notFound

/-- Whether a path names a file or a folder. -/
def holds (t : FileTree) (path : String) : Bool :=
  match t.find path with
  | .ok _ => true
  | .error _ => false

/-- The text of the file at a place. -/
def textAt (t : FileTree) (place : Place) : Except FileError String :=
  match t.file? place with
  | some bytes =>
    match String.fromUTF8? bytes with
    | some text => .ok text
    | none => .error .notText
  | none => .error (if t.isFolder place then .isFolder else .notFound)

/-- The text of a file by its path. -/
def readText (t : FileTree) (path : String) : Except FileError String := do
  t.textAt (← t.find path)

/-- The tree with a new text in the file at a place. -/
def write (t : FileTree) (place : Place) (text : String) : FileTree :=
  { t with files := t.files.map fun (file, bytes) =>
      if file = place then (file, text.toUTF8) else (file, bytes) }

/-- Every folder on the way to a place, and the place itself. -/
def waypoints : Place → List Place
  | [] => []
  | name :: rest => [name] :: (waypoints rest).map (name :: ·)

/-- Every place in the tree, in the order of the names: what lies in a folder comes behind it. -/
def places (t : FileTree) : List Place :=
  ((t.home :: t.folders ++ t.files.map (·.1)).flatMap waypoints).foldr
    (insertInOrder fun a b => a < b) []

/-- The places below a folder, at any depth. -/
def below (t : FileTree) (folder : Place) : List Place :=
  t.places.filter fun place => folder.isPrefixOf place && folder != place

/-- The places directly in a folder. -/
def children (t : FileTree) (folder : Place) : List Place :=
  (t.below folder).filter fun place => place.length == folder.length + 1

end FileTree

end HookMigration
