import HookMigration.Files.Glob
import HookMigration.Files.Tree

/-!
# Target files

A target is a file that a glob pattern reaches, together with the way in which it was reached: the
components of its path as the pattern spells them, with every `..` and `.` in it.  The targets of
several patterns are merged in the order of their paths, each path once.  Paths are compared by
their components, for which a `.` counts only in front; of several spellings the first one stays.
-/

namespace HookMigration

/-- A point on the way of a pattern: the path so far as it is spelled, and the place that it leads
to. -/
structure Trail where
  spelling : List Component
  place : Place
  deriving DecidableEq, Repr

namespace Trail

/-- The components that a path is compared by. -/
def condensed : List Component → List Component
  | [] => []
  | first :: rest => first :: rest.filter (· ≠ .current)

/-- The place that a component leads to from a place. -/
def arrive (place : Place) : Component → Place
  | .root => []
  | .current => place
  | .parent => place.dropLast
  | .name text => place ++ [text]

/-- The beginning of a way: the root, or the working folder under the name `.`. -/
def start (absolute : Bool) (place : Place) : Trail :=
  ⟨[if absolute then .root else .current], place⟩

/-- The path of a trail. -/
def path (t : Trail) : String :=
  Path.ofComponents t.spelling

/-- The components that a trail is compared by. -/
def components (t : Trail) : List Component :=
  condensed t.spelling

/-- Whether the path is no more than `.`. -/
def isCurrent (t : Trail) : Bool :=
  t.spelling.all (· = .current)

/-- The components that further ones are put behind.  The path `.` gives way to them. -/
def base (t : Trail) : List Component :=
  if t.isCurrent then [] else t.spelling

/-- The trail one component further, with `front` before it. -/
def further (t : Trail) (front : List Component) (c : Component) : Trail :=
  ⟨front ++ [c], arrive t.place c⟩

/-- The trail that leads on to a place below. -/
def down (t : Trail) (place : Place) : Trail :=
  ⟨t.base ++ (place.drop t.place.length).map .name, place⟩

/-- The order of trails: by their components. -/
def before (a b : Trail) : Bool :=
  go a.components b.components
where
  /-- The order of lists of components. -/
  go : List Component → List Component → Bool
    | [], [] => false
    | [], _ :: _ => true
    | _ :: _, [] => false
    | c :: cs, d :: ds => c.before d || (c == d && go cs ds)

end Trail

namespace FileTree

/-- The trails that a component without wildcards leads to.  An empty one stays in a folder that has
been entered. -/
def exactly (t : FileTree) (trail : Trail) (name : String) : List Trail :=
  if !t.isFolder trail.place then []
  else if name = "" then (if trail.isCurrent then [] else [trail])
  else if name = "." then [trail.further trail.base .current]
  else if name = ".." then [trail.further trail.base .parent]
  else
    let next := trail.further trail.base (.name name)
    if t.existsAt next.place then [next] else []

/-- The trails to the folder above and to the folder itself, which a component with wildcards
reaches only if it begins with a point.  Here the path `.` does not give way. -/
def pointed (trail : Trail) (step : Glob.Step) : List Trail :=
  if step.beginsWithPoint then
    (if step.admits ".." then [trail.further trail.spelling .parent] else []) ++
      (if step.admits "." then [trail.further trail.spelling .current] else [])
  else []

/-- The trails that a component leads to. -/
def step (t : FileTree) (trail : Trail) (step : Glob.Step) : List Trail :=
  match step with
  | .exactly name => t.exactly trail name
  | step =>
    if t.isFolder trail.place then
      pointed trail step ++ ((t.children trail.place).map trail.down).filter fun next =>
        (next.place.getLast?.map step.admits).getD false
    else []

/-- The trails to anything below a folder whose last name a component admits. -/
def anywhere (t : FileTree) (trail : Trail) (step : Glob.Step) : List Trail :=
  if t.isFolder trail.place then
    ((t.below trail.place).map trail.down).filter fun next =>
      (next.place.getLast?.map step.admits).getD false
  else []

/-- The trails that steps lead to.  Behind `**`, which `deep` records, the next step is tried on
everything below; a `**` at the end leads to folders alone, which are no targets. -/
def follow (t : FileTree) (deep : Bool) (trail : Trail) : List Glob.Step → List Trail
  | [] => if deep then [] else [trail]
  | .folders :: rest => t.follow true trail rest
  | step :: rest =>
    (if deep then t.anywhere trail step else t.step trail step).flatMap fun next =>
      t.follow false next rest

/-- The files that a pattern reaches. -/
def reach (t : FileTree) (glob : Glob) : List Trail :=
  if glob.onlyFolders then []
  else
    (t.follow false (.start glob.absolute (t.origin glob.absolute)) glob.steps).filter fun trail =>
      t.isFile trail.place

/-- The targets of patterns below a root. -/
def targets (t : FileTree) (root : String) (patterns : List String) :
    Except Glob.PatternError (List Trail) := do
  let globs ← patterns.mapM fun pattern => Glob.parse (Path.join root pattern)
  return (globs.flatMap t.reach).foldl (fun trails trail => insertInOrder Trail.before trail trails) []

end FileTree

end HookMigration
