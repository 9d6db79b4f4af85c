import HookMigration.Text.Classes
import Mathlib.Data.List.Basic

/-!
# Regular expressions

The part of regular expressions that patterns are written in: single characters, the classes `\s`
and `\w`, the repetitions `*` and `+` of one character or class, the word boundary `\b`, and named
groups.  `Matches` says which stretches of a text an expression matches and what its groups capture,
without any order of trying: it holds of every way in which the expression can match.

`read?` reads the notation.  It goes from left to right; a backslash takes the next character along,
a repetition applies to the character or class before it, and a group is collected until its closing
parenthesis.  What lies outside of the part described here is not read, so where `read?` gives an
expression, the notation has that meaning.
-/

namespace HookMigration.Regex

/-! ## Expressions -/

/-- A set of characters. -/
inductive CharClass
  | exactly (c : Char)
  | blank
  | word
  deriving DecidableEq, Repr

/-- How often a character of a class may occur in a row. -/
inductive Count
  | one
  | any
  | some
  deriving DecidableEq, Repr

/-- A word boundary, or a run of characters of a class. -/
inductive Item
  | boundary
  | run (cls : CharClass) (count : Count)
  deriving DecidableEq, Repr

/-- An item, or a named group of items. -/
inductive Piece
  | item (i : Item)
  | group (label : String) (body : List Item)
  deriving DecidableEq, Repr

end Regex

/-- A regular expression: pieces in a row. -/
abbrev Regex := List Regex.Piece

namespace Regex

/-- The label of a piece that is a group. -/
def Piece.label? : Piece → Option String
  | .item _ => none
  | .group label _ => some label

/-- The labels of an expression. -/
def labels (r : Regex) : List String :=
  r.filterMap Piece.label?

/-! ## What an expression matches -/

/-- Whether a class holds a character. -/
def CharClass.holds : CharClass → Char → Bool
  | .exactly d, c => c == d
  | .blank, c => Text.isBlank c
  | .word, c => Text.isWordChar c

/-- Whether a run may have a length. -/
def Count.Allows : Count → Nat → Prop
  | .one, n => n = 1
  | .any, _ => True
  | .some, n => 1 ≤ n

/-- An item takes a stretch of text between the text before it and the text after it. -/
def Item.Takes (before : List Char) : Item → (taken after : List Char) → Prop
  | .boundary, taken, after =>
    taken = [] ∧ before.getLast?.any Text.isWordChar ≠ after.head?.any Text.isWordChar
  | .run cls count, taken, _ => taken.all cls.holds = true ∧ count.Allows taken.length

/-- Items in a row take a stretch of text. -/
def ItemsTake (before : List Char) : List Item → (taken after : List Char) → Prop
  | [], taken, _ => taken = []
  | i :: rest, taken, after =>
    ∃ first others, taken = first ++ others ∧ i.Takes before first (others ++ after) ∧
      ItemsTake (before ++ first) rest others after

/-- What the groups of a match captured, by label. -/
abbrev Captures := List (String × List Char)

/-- An expression matches the stretch `matched` of the text `before ++ matched ++ after`, and its
groups capture the given texts. -/
def Matches : Regex → (before matched after : List Char) → Captures → Prop
  | [], _, matched, _, captures => matched = [] ∧ captures = []
  | .item i :: rest, before, matched, after, captures =>
    ∃ first others, matched = first ++ others ∧ i.Takes before first (others ++ after) ∧
      Matches rest (before ++ first) others after captures
  | .group label body :: rest, before, matched, after, captures =>
    ∃ first others captures', matched = first ++ others ∧ captures = (label, first) :: captures' ∧
      ItemsTake before body first (others ++ after) ∧
      Matches rest (before ++ first) others after captures'

/-! ## Reading the notation -/

/-- One sign of the notation: a character, or a character behind a backslash. -/
inductive Sign
  | plain (c : Char)
  | escaped (c : Char)
  deriving DecidableEq, Repr

/-- The signs of a text, unless a backslash ends it. -/
def signs? : List Char → Option (List Sign)
  | [] => some []
  | c :: rest =>
    if c = '\\' then
      match rest with
      | [] => none
      | d :: rest => (signs? rest).map (.escaped d :: ·)
    else (signs? rest).map (.plain c :: ·)

/-- Where a reader is: outside of any group, between the parenthesis and the items of a group, or
among the items of a group. -/
inductive Spot
  | outside
  | header (text : List Char)
  | inside (label : String)
  deriving DecidableEq, Repr

/-- The pieces that a reader has behind it, and the items that it collects. -/
structure Reading where
  pieces : Regex
  items : List Item
  spot : Spot
  deriving DecidableEq, Repr

namespace Reading

/-- Before the first sign. -/
def start : Reading := ⟨[], [], .outside⟩

/-- Everything that was read outside of an open group. -/
def collected (r : Reading) : Regex :=
  r.pieces ++ r.items.map .item

/-- One more item. -/
def push (r : Reading) (i : Item) : Reading :=
  { r with items := r.items ++ [i] }

/-- The last character or class repeated. -/
def repeatLast (r : Reading) (count : Count) : Option Reading :=
  match r.items.getLast? with
  | some (.run cls .one) => some { r with items := r.items.dropLast ++ [.run cls count] }
  | _ => none

/-- Whether a character means something other than itself. -/
def isOperator (c : Char) : Bool :=
  c ∈ ['\\', '.', '+', '*', '?', '(', ')', '|', '[', ']', '\x7b', '\x7d', '^', '$']

/-- Whether a backslash in front makes a character stand for itself. -/
def isEscapable (c : Char) : Bool :=
  decide (c.toNat < 128) && !c.isAlphanum && !(c == '<' || c == '>')

/-- A character behind a backslash. -/
def escaped (r : Reading) (c : Char) : Option Reading :=
  if c = 'b' then some (r.push .boundary)
  else if c = 's' then some (r.push (.run .blank .one))
  else if c = 'w' then some (r.push (.run .word .one))
  else if isEscapable c then some (r.push (.run (.exactly c) .one))
  else none

/-- A character by itself. -/
def plain (r : Reading) (c : Char) : Option Reading :=
  if c = '*' then r.repeatLast .any
  else if c = '+' then r.repeatLast .some
  else if isOperator c then none
  else some (r.push (.run (.exactly c) .one))

/-- Whether a text may label a group. -/
def isLabel (cs : List Char) : Bool :=
  cs.head?.any Char.isAlpha && cs.all Char.isAlphanum

/-- One more sign. -/
def step (r : Reading) (s : Sign) : Option Reading :=
  match r.spot, s with
  | .header text, .plain c =>
    if c = '>' then
      match text with
      | '?' :: 'P' :: '<' :: label =>
        if isLabel label then some { r with spot := .inside (String.ofList label) } else none
      | _ => none
    else some { r with spot := .header (text ++ [c]) }
  | .header _, .escaped _ => none
  | .outside, .plain '(' => some ⟨r.collected, [], .header []⟩
  | .inside label, .plain ')' => some ⟨r.pieces ++ [.group label r.items], [], .outside⟩
  | _, .plain c => r.plain c
  | _, .escaped c => r.escaped c

/-- The expression that was read, unless a group is open or two groups have the same label. -/
def finish (r : Reading) : Option Regex :=
  match r.spot with
  | .outside => if (labels r.collected).Nodup then some r.collected else none
  | _ => none

end Reading

/-- The expression that a text denotes. -/
def read? (text : String) : Option Regex :=
  (signs? text.toList).bind fun signs => (signs.foldlM Reading.step .start).bind Reading.finish

end HookMigration.Regex
