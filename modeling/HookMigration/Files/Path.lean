import HookMigration.Text.Trim

/-!
# Paths

A path is a text whose components stand between slashes; nothing here looks at a file.  Components
drop empty pieces, and every `.` but one at the beginning of a relative path.  Joining and going up
keep the spelling of a path, so that messages show it as the user wrote it.
-/

namespace HookMigration

/-- A component of a path. -/
inductive Component
  | root
  | current
  | parent
  | name (text : String)
  deriving DecidableEq, Repr

namespace Component

/-- A component as it is written. -/
def text : Component → String
  | .root => "/"
  | .current => "."
  | .parent => ".."
  | .name text => text

/-- The place of the kind of a component in the order. -/
def rank : Component → Nat
  | .root => 0
  | .current => 1
  | .parent => 2
  | .name _ => 3

/-- The component for a piece that is neither empty nor `.`. -/
def ofPiece (piece : String) : Component :=
  if piece = ".." then .parent else .name piece

/-- Whether one text is before another: texts compare by their characters. -/
def textBefore (a b : String) : Bool :=
  decide (a < b)

/-- The order of components: by kind, and names by their text. -/
def before (a b : Component) : Bool :=
  match a, b with
  | .name s, .name t => textBefore s t
  | _, _ => a.rank < b.rank

end Component

namespace Path

/-- Whether a path begins at the root of all files. -/
def isAbsolute (path : String) : Bool :=
  path.toList.head? = some '/'

/-- The pieces of a path between its slashes. -/
def piecesOf (path : String) : List String :=
  Text.pieces '/' path

/-- Whether a piece adds nothing to a path, unless it stands first. -/
def isIdle (piece : String) : Bool :=
  piece = "" || piece = "."

/-- The components of the pieces of a path. -/
def componentsOf (pieces : List String) : List Component :=
  (pieces.filter (!isIdle ·)).map Component.ofPiece

/-- The components of a path. -/
def components (path : String) : List Component :=
  match piecesOf path with
  | [] => []
  | [piece] => if piece = "." then [.current] else componentsOf [piece]
  | first :: rest =>
    if first = "" then .root :: componentsOf rest
    else if first = "." then .current :: componentsOf rest
    else componentsOf (first :: rest)

/-- The path of components. -/
def ofComponents : List Component → String
  | .root :: rest => "/" ++ Text.joinWith "/" (rest.map Component.text)
  | components => Text.joinWith "/" (components.map Component.text)

/-- A path below another one; an absolute path stays what it is. -/
def join (base path : String) : String :=
  if isAbsolute path || base = "" then path
  else if base.toList.getLast? = some '/' then base ++ path
  else base ++ "/" ++ path

/-- The path whose first piece is `first` and whose other pieces are `rest`, in reverse. -/
def ofReversed (first : String) (rest : List String) : String :=
  match rest with
  | [] => if first = "" then "/" else first
  | _ => Text.joinWith "/" (first :: rest.reverse)

/-- The paths above the one whose first piece is `first` and whose other pieces are given in
reverse, each one component shorter than the one before. -/
def above (first : String) : List String → List String
  | [] => if first = "" then [] else [""]
  | piece :: rest =>
    if isIdle piece then above first rest
    else ofReversed first (rest.dropWhile isIdle) :: above first rest

/-- A path and the paths above it, from the bottom to the top.  Above a relative path of one
component lies the empty path, and above that nothing. -/
def ancestors (path : String) : List String :=
  match piecesOf path with
  | [] => [path]
  | first :: rest => path :: above first rest.reverse

/-- The last component of a path, if it is a name. -/
def fileName? (path : String) : Option String :=
  match (components path).getLast? with
  | some (.name text) => some text
  | _ => none

/-- What stands behind the last point of the name of a file, if anything stands before it. -/
def extension? (path : String) : Option String :=
  (fileName? path).bind fun name =>
    let reversed := name.toList.reverse
    let behind := reversed.takeWhile (· ≠ '.')
    let before := (reversed.dropWhile (· ≠ '.')).drop 1
    if before.isEmpty then none else some (String.ofList behind.reverse)

/-- The way from `base` to `path`, both given by their components.  `started` says that the way has
begun already.  There is none where it would lead out of an unknown folder. -/
def wayTo (started : Bool) : List Component → List Component → Option (List Component)
  | [], [] => some []
  | path, [] => some path
  | [], _ :: base => (wayTo true [] base).map (.parent :: ·)
  | a :: path, b :: base =>
    if !started && a == b then wayTo false path base
    else if b = .current then (wayTo true path base).map (a :: ·)
    else if b = .parent then none
    else some (.parent :: base.map (fun _ => .parent) ++ a :: path)

/-- A path relative to `base`, or the path itself where there is no way from `base` to it. -/
def display (base path : String) : String :=
  if isAbsolute path != isAbsolute base then path
  else match wayTo false (components path) (components base) with
    | some way => ofComponents way
    | none => path

end Path

end HookMigration
