import HookMigration.Pattern.Matching

/-!
# The matches in a text

A pattern cuts a text into stretches: its matches, from left to right and without overlap, and the
single characters between them.  Everything that is said about the matches in a text, their places,
their number and the text with each of them replaced, is read off the stretches.
-/

namespace HookMigration.Pattern

/-- A character that no match covers, or a match. -/
inductive Stretch
  | plain (c : Char)
  | hit (m : Match)
  deriving DecidableEq, Repr

/-- The text of a stretch. -/
def Stretch.text : Stretch → List Char
  | .plain c => [c]
  | .hit m => m.matched

/-- Whether a stretch is a match. -/
def Stretch.isHit : Stretch → Bool
  | .plain _ => false
  | .hit _ => true

/-- The stretches of a text with a given character before it.  A match of no character is none. -/
def stretchesFrom (p : Pattern) (before : Option Char) (text : List Char) : List Stretch :=
  match text with
  | [] => []
  | c :: rest =>
    match p.matchAhead? before (c :: rest) with
    | some m =>
      if m.matched = [] then .plain c :: stretchesFrom p (some c) rest
      else .hit m :: stretchesFrom p m.matched.getLast? ((c :: rest).drop m.matched.length)
    | none => .plain c :: stretchesFrom p (some c) rest
  termination_by text.length
  decreasing_by
    · simp
    · rename_i h
      have := List.length_pos_iff.2 h
      simp only [List.length_drop, List.length_cons]
      omega
    · simp

/-- The stretches of a whole text. -/
def stretches (p : Pattern) (text : List Char) : List Stretch :=
  p.stretchesFrom none text

/-- The number of matches among stretches. -/
def hitCount (stretches : List Stretch) : Nat :=
  stretches.countP Stretch.isHit

/-- The text with every match replaced. -/
def replaceHits (replacement : Match → List Char) (stretches : List Stretch) : List Char :=
  stretches.flatMap fun
    | .plain c => [c]
    | .hit m => replacement m

end HookMigration.Pattern
