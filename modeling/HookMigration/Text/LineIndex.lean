/-!
# Line indices

The index of a text knows at which byte offsets the lines of the text begin.  The place of an offset
is found without going through the text from its beginning: a search among the offsets gives the
line, and the characters from the beginning of the line up to the offset are counted.
-/

namespace HookMigration.Text

/-- The offsets at which the lines behind the first begin, in a text that itself begins at an
offset. -/
def lineStartsFrom (offset : Nat) : List Char → List Nat
  | [] => []
  | c :: rest =>
    let next := offset + c.utf8Size
    if c = '\n' then next :: lineStartsFrom next rest else lineStartsFrom next rest

/-- The characters of a text that fill a number of bytes, and those behind them; none where the
bytes end inside of a character or behind the text. -/
def splitBytes? : Nat → List Char → Option (List Char × List Char)
  | 0, cs => some ([], cs)
  | _ + 1, [] => none
  | bytes + 1, c :: rest =>
    if c.utf8Size ≤ bytes + 1 then
      (splitBytes? (bytes + 1 - c.utf8Size) rest).map fun (front, back) => (c :: front, back)
    else none

/-- The position of a number in a table in increasing order, or, as an error, the position at which
it would have to be put. -/
def searchTable (table : List Nat) (n : Nat) : Except Nat Nat :=
  match table.idxOf? n with
  | some i => .ok i
  | none => .error (table.countP (· < n))

/-- A text and the offsets at which its lines begin. -/
structure LineIndex where
  text : List Char
  starts : List Nat
  deriving DecidableEq, Repr

namespace LineIndex

/-- The index of a text. -/
def ofText (text : List Char) : LineIndex :=
  ⟨text, 0 :: lineStartsFrom 0 text⟩

/-- The last line that begins at an offset or before it. -/
def lineAt (index : LineIndex) (offset : Nat) : Nat :=
  match searchTable index.starts offset with
  | .ok line => line
  | .error next => next - 1

/-- The characters between two offsets; none where one of the offsets is no character boundary. -/
def slice? (index : LineIndex) (start stop : Nat) : Option (List Char) := do
  if start ≤ stop then
    let (_, back) ← splitBytes? start index.text
    let (inside, _) ← splitBytes? (stop - start) back
    return inside
  else none

/-- Line and column of a byte offset, where the offset is a character boundary of the text. -/
def position? (index : LineIndex) (offset : Nat) : Option (Nat × Nat) := do
  let line := index.lineAt offset
  let start ← index.starts[line]?
  let inside ← index.slice? start offset
  return (line, inside.length)

end LineIndex

end HookMigration.Text
