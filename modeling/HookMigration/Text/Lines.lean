/-!
# Lines

A line ends at `'\n'`, which is no part of it; one carriage return before the `'\n'` is dropped with
it.  What follows the last `'\n'` is a line of its own unless it is empty.
-/

namespace HookMigration.Text

/-- The text without a carriage return at its end. -/
def dropReturn (line : List Char) : List Char :=
  if line.getLast? = some '\r' then line.dropLast else line

/-- The lines of a text whose current line has the characters `line`, in reverse, behind it. -/
def linesAfter (line : List Char) : List Char → List (List Char)
  | [] => if line.isEmpty then [] else [line.reverse]
  | c :: rest =>
    if c = '\n' then dropReturn line.reverse :: linesAfter [] rest
    else linesAfter (c :: line) rest

/-- The lines of a text. -/
def lines (cs : List Char) : List (List Char) :=
  linesAfter [] cs

end HookMigration.Text
