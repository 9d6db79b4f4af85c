import HookMigration.Text.Trim

/-!
# Splitting a parameter list

A parameter list is cut at the commas that stand outside of any bracket.  The depth of brackets is
a signed number: a list that closes more than it opens is cut only where the balance is back to
zero.  The number has no bounds here; a counter of 32 bits would overflow only behind 2 ^ 31 brackets
of one kind that nothing matches.
-/

namespace HookMigration.Signature

/-- How one character changes the depth of brackets. -/
def depthStep (c : Char) : Int :=
  match c with
  | '<' | '(' | '[' => 1
  | '>' | ')' | ']' => -1
  | _ => 0

/-- The depth of brackets after a text. -/
def depthOf : List Char → Int
  | [] => 0
  | c :: rest => depthStep c + depthOf rest

/-- The pieces of the rest of a list, where the piece under way has the characters `current`, in
reverse, and `depth` brackets are open.  A last piece of blanks is left out. -/
def splitFrom (current : List Char) (depth : Int) : List Char → List (List Char)
  | [] => if Text.isBlankText current then [] else [current.reverse]
  | c :: rest =>
    if c = ',' ∧ depth = 0 then current.reverse :: splitFrom [] depth rest
    else splitFrom (c :: current) (depth + depthStep c) rest

/-- The pieces of a parameter list, untrimmed. -/
def splitList (cs : List Char) : List (List Char) :=
  splitFrom [] 0 cs

/-- `splitList` on strings. -/
def splitParameters (text : String) : List String :=
  (splitList text.toList).map String.ofList

end HookMigration.Signature
