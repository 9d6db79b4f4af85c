import HookMigration.Pattern.Basic
import HookMigration.Signature.Basic
import HookMigration.Template
import HookMigration.Text.Lowercase

/-!
# Migrations

The old signature becomes a pattern that captures the type and the name of each parameter.  The new
signature becomes a template.  A new parameter at position `c`

1. that the old signature has with the same type and name, reuses what that one captured;
2. else, if the old signature has a position `c`, takes the new type and the name captured there;
3. else takes the new type and the new name, where a name that was left out is made of the type.
-/

namespace HookMigration.Migration

open Pattern

/-- Whether optional spacing is allowed around a character of a type. -/
def isTypeMark (c : Char) : Bool :=
  c == '<' || c == '>' || c == ',' || c == '[' || c == ']'

/-- One character of a type with the spacing that it allows around it. -/
def typeCharAtoms (c : Char) : List Atom :=
  if Text.isBlank c then []
  else if isTypeMark c then [.blanks, .literal c, .blanks]
  else [.literal c]

/-- Atoms without optional blanks in front. -/
def dropFirstBlanks : List Atom → List Atom
  | .blanks :: rest => rest
  | atoms => atoms

/-- Atoms without optional blanks at the end. -/
def dropLastBlanks (atoms : List Atom) : List Atom :=
  if atoms.getLast? = some .blanks then atoms.dropLast else atoms

/-- The atoms of a type: its characters other than blanks, with loose spacing inside. -/
def typeAtoms (type : List Char) : List Atom :=
  dropLastBlanks (dropFirstBlanks (collapse (type.flatMap typeCharAtoms)))

/-- The parts for the parameter at a position, with the comma before it. -/
def parameterParts (p : Parameter) (position : Nat) : List Part :=
  (if position > 1 then [.atom .blanks, .atom (.literal ',')] else []) ++
    [.atom .blanks, .capture (.type position) (typeAtoms p.type.toList), .atom .someBlanks,
      .capture (.name position) [.word]]

/-- The parts for the parameters from a position on. -/
def parametersParts (position : Nat) : List Parameter → List Part
  | [] => []
  | p :: rest => parameterParts p position ++ parametersParts (position + 1) rest

/-- The pattern of an old signature. -/
def pattern (s : Signature) : Pattern :=
  bounded s.name.toList.head?
    ((literals s.name.toList).map .atom ++ [.atom .blanks, .atom (.literal '(')] ++
      parametersParts 1 s.parameters ++ [.atom .blanks, .atom (.literal ')')])

/-- The name of a new parameter at a position that the old signature does not reach. -/
def literalName (p : Parameter) (position : Nat) : String :=
  if p.synthesized then
    String.ofList (Text.lowercase (p.type.toList.filter Text.isNameChar)) ++ toString position
  else p.name

/-- The template with the new parameter at a position behind it. -/
def pushParameter (old : List Parameter) (t : Template) (p : Parameter) (position : Nat) :
    Template :=
  match old.findIdx? (·.sameAs p) with
  | some index =>
    ((t.pushCapture (.type (index + 1))).pushLiteral " ").pushCapture (.name (index + 1))
  | none =>
    let t := (t.pushLiteral p.type).pushLiteral " "
    if position ≤ old.length then t.pushCapture (.name position)
    else t.pushLiteral (literalName p position)

/-- The template with the new parameters from a position on behind it, separated by commas. -/
def pushParameters (old : List Parameter) (t : Template) (position : Nat) :
    List Parameter → Template
  | [] => t
  | p :: rest =>
    let t := if position > 1 then t.pushLiteral ", " else t
    pushParameters old (pushParameter old t p position) (position + 1) rest

/-- The template that makes the new signature of a match of the old one. -/
def template (old new : Signature) : Template :=
  (pushParameters old.parameters ((Template.empty.pushLiteral new.name).pushLiteral "(") 1
    new.parameters).pushLiteral ")"

end HookMigration.Migration
