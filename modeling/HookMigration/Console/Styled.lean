import HookMigration.Text.Trim

/-!
# Styled text

A line of output has two forms, one with the control sequences of its colours and of bold letters,
and one without.  Where both are made of one text, the functions below make them; a line whose forms
are worded apart gives both.
-/

namespace HookMigration

/-- The colours of a terminal that are in use. -/
inductive Color
  | red
  | green
  | yellow
  | blue
  | cyan
  | brightBlack
  deriving DecidableEq, Repr

/-- The number that switches a colour on. -/
def Color.code : Color → Nat
  | .red => 31
  | .green => 32
  | .yellow => 33
  | .blue => 34
  | .cyan => 36
  | .brightBlack => 90

/-- The control sequence with a number. -/
def controlSequence (code : Nat) : String :=
  "\x1b[" ++ toString code ++ "m"

/-- A text in a colour, between the sequences that switch it on and off. -/
def Color.paint (color : Color) (text : String) : String :=
  controlSequence color.code ++ text ++ controlSequence 39

/-- A text in bold letters. -/
def embolden (text : String) : String :=
  controlSequence 1 ++ text ++ controlSequence 0

/-- A line or a part of one, in styles and without. -/
@[ext]
structure Line where
  styled : String
  bare : String
  deriving DecidableEq, Repr

namespace Line

instance : Append Line := ⟨fun a b => ⟨a.styled ++ b.styled, a.bare ++ b.bare⟩⟩

@[simp] theorem styled_append (a b : Line) : (a ++ b).styled = a.styled ++ b.styled := rfl

@[simp] theorem bare_append (a b : Line) : (a ++ b).bare = a.bare ++ b.bare := rfl

/-- A text without a style. -/
def plain (text : String) : Line := ⟨text, text⟩

/-- A bold text. -/
def bold (text : String) : Line := ⟨embolden text, text⟩

/-- A coloured text. -/
def colored (color : Color) (text : String) : Line := ⟨color.paint text, text⟩

/-- A bold text in a colour. -/
def strong (color : Color) (text : String) : Line := ⟨embolden (color.paint text), text⟩

/-- A line as it is shown, without its end. -/
def render (styled : Bool) (line : Line) : String :=
  if styled then line.styled else line.bare

end Line

/-- Lines as they are shown, in styles or without, each with its end. -/
def renderLines (lines : List (Bool × Line)) : String :=
  Text.concat (lines.map fun (styled, line) => line.render styled ++ "\n")

end HookMigration
