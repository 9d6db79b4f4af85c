/-!
# Positions in a text

A text is a list of characters.  A `Cursor` stands between two of them and knows its byte offset,
its line and its column; it moves over one character at a time.  Offsets count bytes of UTF-8,
lines count `'\n'`, columns count characters since the last of those, and all three start at zero.
-/

namespace HookMigration.Text

/-- The number of bytes of a text in UTF-8. -/
def byteLength : List Char → Nat
  | [] => 0
  | c :: rest => c.utf8Size + byteLength rest

/-- A place between two characters of a text. -/
structure Cursor where
  offset : Nat
  line : Nat
  column : Nat
  deriving DecidableEq, Repr, Inhabited

namespace Cursor

/-- The beginning of a text. -/
def start : Cursor := ⟨0, 0, 0⟩

/-- The cursor after one more character. -/
def advance (cursor : Cursor) (c : Char) : Cursor :=
  if c = '\n' then ⟨cursor.offset + c.utf8Size, cursor.line + 1, 0⟩
  else ⟨cursor.offset + c.utf8Size, cursor.line, cursor.column + 1⟩

/-- The cursor after a whole text. -/
def advanceOver (cursor : Cursor) (cs : List Char) : Cursor :=
  cs.foldl advance cursor

/-- The cursor at a byte offset ahead, if the offset lies on a character boundary of the text. -/
def seek? (cursor : Cursor) (offset : Nat) : List Char → Option Cursor
  | [] => if cursor.offset = offset then some cursor else none
  | c :: rest =>
    if cursor.offset = offset then some cursor else (cursor.advance c).seek? offset rest

@[simp] theorem advanceOver_nil (cursor : Cursor) : cursor.advanceOver [] = cursor := rfl

@[simp] theorem advanceOver_cons (cursor : Cursor) (c : Char) (cs : List Char) :
    cursor.advanceOver (c :: cs) = (cursor.advance c).advanceOver cs := rfl

theorem advanceOver_append (cursor : Cursor) (cs ds : List Char) :
    cursor.advanceOver (cs ++ ds) = (cursor.advanceOver cs).advanceOver ds := by
  simp [advanceOver, List.foldl_append]

end Cursor

/-- Line and column of a byte offset, where the offset is a character boundary of the text. -/
def lineColumn? (text : String) (offset : Nat) : Option (Nat × Nat) :=
  (Cursor.start.seek? offset text.toList).map fun cursor => (cursor.line, cursor.column)

end HookMigration.Text
