import HookMigration.Slot
import HookMigration.Text.Trim

/-!
# Patterns

A pattern describes occurrences of a signature in source text.  It is a list of parts, each an atom
or a captured group of atoms; `Pattern.text` writes it as a regular expression.

Patterns are built with spacing that collapses: two optional blanks in a row are one.
-/

namespace HookMigration

namespace Pattern

/-- One test on the text ahead. -/
inductive Atom
  /-- A word character on exactly one side, written `\b`. -/
  | boundary
  /-- This one character. -/
  | literal (c : Char)
  /-- Any number of blanks, written `\s*`. -/
  | blanks
  /-- One or more blanks, written `\s+`. -/
  | someBlanks
  /-- One or more word characters, written `\w+`. -/
  | word
  deriving DecidableEq, Repr

/-- An atom, or a group of atoms whose text is captured in a slot. -/
inductive Part
  | atom (a : Atom)
  | capture (slot : Slot) (body : List Atom)
  deriving DecidableEq, Repr

/-- The characters that a regular expression reads as themselves only behind a backslash. -/
def metacharacters : List Char :=
  "\\.+*?()|[]\x7b\x7d^$#&-~".toList

/-- A character written so that it stands for itself. -/
def escape (c : Char) : String :=
  if c ∈ metacharacters then "\\" ++ c.toString else c.toString

/-- An atom as a regular expression. -/
def Atom.text : Atom → String
  | .boundary => "\\b"
  | .literal c => escape c
  | .blanks => "\\s*"
  | .someBlanks => "\\s+"
  | .word => "\\w+"

/-- A part as a regular expression; a group carries the label of its slot. -/
def Part.text : Part → String
  | .atom a => a.text
  | .capture slot body => "(?P<" ++ slot.label ++ ">" ++ Text.concat (body.map Atom.text) ++ ")"

/-- An atom in front of others, where optional blanks in front of optional blanks add nothing. -/
def consAtom (a : Atom) (rest : List Atom) : List Atom :=
  match a, rest with
  | .blanks, .blanks :: _ => rest
  | _, _ => a :: rest

/-- Atoms with every run of optional blanks made one. -/
def collapse (atoms : List Atom) : List Atom :=
  atoms.foldr consAtom []

/-- A literal text. -/
def literals (cs : List Char) : List Atom :=
  cs.map Atom.literal

end Pattern

/-- What the occurrences of a signature look like. -/
structure Pattern where
  parts : List Pattern.Part
  deriving DecidableEq, Repr

namespace Pattern

/-- The pattern as a regular expression. -/
def text (p : Pattern) : String :=
  Text.concat (p.parts.map Part.text)

/-- The number of captures of a pattern. -/
def captureCount (p : Pattern) : Nat :=
  p.parts.countP fun
    | .atom _ => false
    | .capture _ _ => true

/-- The parts of a pattern for a text that begins with `first`: they ask for a word boundary if
that is a name character. -/
def bounded (first : Option Char) (parts : List Part) : Pattern :=
  match first with
  | some c => if Text.isNameChar c then ⟨.atom .boundary :: parts⟩ else ⟨parts⟩
  | none => ⟨parts⟩

end Pattern

end HookMigration
