import HookMigration.Pattern.Basic

/-!
# The pattern of a removed hook

A removed signature is never read; its text is looked for as it stands.  Only the spacing around its
marks, the parentheses and commas, is loose: blanks next to a mark are left out of the text, and the
pattern allows any number of them there, except behind a closing parenthesis.
-/

namespace HookMigration.Removal

open Pattern

/-- A parenthesis or a comma. -/
def isMark (c : Char) : Bool :=
  c == '(' || c == ')' || c == ','

/-- Whether the first character of a text that is no blank is a mark. -/
def markAhead (cs : List Char) : Bool :=
  (Text.trimStart cs).head?.any isMark

/-- A text without the blanks next to its marks; `behindMark` says that the character before the
blanks at its beginning is one. -/
def compactFrom (behindMark : Bool) : List Char → List Char
  | [] => []
  | c :: rest =>
    if Text.isBlank c then
      if behindMark || markAhead rest then compactFrom behindMark rest
      else c :: compactFrom false rest
    else c :: compactFrom (isMark c) rest

/-- A text without blanks at its ends and next to its marks. -/
def compact (cs : List Char) : List Char :=
  compactFrom false (Text.trim cs)

/-- One character of a compact text with the spacing that it allows around it. -/
def charAtoms (c : Char) : List Atom :=
  if c = '(' ∨ c = ',' then [.blanks, .literal c, .blanks]
  else if c = ')' then [.blanks, .literal c]
  else [.literal c]

/-- The atoms of a compact text. -/
def atoms (cs : List Char) : List Atom :=
  collapse (cs.flatMap charAtoms)

/-- The pattern of a removed signature. -/
def pattern (text : String) : Pattern :=
  let cs := compact text.toList
  bounded cs.head? ((atoms cs).map .atom)

end HookMigration.Removal
