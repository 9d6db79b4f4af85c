import HookMigration.Text.AlphabeticTable
import HookMigration.Text.MarkTable
import HookMigration.Text.NumberTable

/-!
# Character classes

Three classes of characters meet in a signature, and they differ outside of ASCII.

* `isBlank` is the property `White_Space`: what is trimmed, and what a pattern's optional spacing
  matches.
* `isNameChar` is a letter, a number of any kind or a low line: what types and parameter names of a
  configured signature are made of.
* `isWordChar` is a letter, a mark, a decimal digit, a connector or a joiner: what the name of a
  hook and a user's parameter names are made of, and what a word boundary separates.

A fraction such as `½` is a name character and no word character; a combining accent is a word
character and no name character.
-/

namespace HookMigration.Text

/-- Whether an increasing list of inclusive ranges holds `n`.  The search ends at the first range
that begins beyond `n`. -/
def inRanges (n : Nat) : List (Nat × Nat) → Bool
  | [] => false
  | (low, high) :: rest => if n < low then false else if n ≤ high then true else inRanges n rest

/-- The property `White_Space`. -/
def isBlank (c : Char) : Bool :=
  inRanges c.toNat
    [(0x9, 0xd), (0x20, 0x20), (0x85, 0x85), (0xa0, 0xa0), (0x1680, 0x1680), (0x2000, 0x200a),
     (0x2028, 0x2029), (0x202f, 0x202f), (0x205f, 0x205f), (0x3000, 0x3000)]

/-- A letter or a number of any kind. -/
def isAlphanumeric (c : Char) : Bool :=
  inRanges c.toNat alphabeticRanges || inRanges c.toNat digitRanges ||
    inRanges c.toNat otherNumberRanges

/-- A character of a configured type or parameter name. -/
def isNameChar (c : Char) : Bool :=
  isAlphanumeric c || c == '_'

/-- A character of a word in source text. -/
def isWordChar (c : Char) : Bool :=
  inRanges c.toNat alphabeticRanges || inRanges c.toNat markRanges ||
    inRanges c.toNat digitRanges || inRanges c.toNat connectorRanges ||
    inRanges c.toNat [(0x200c, 0x200d)]

end HookMigration.Text
