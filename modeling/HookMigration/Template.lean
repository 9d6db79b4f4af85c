import HookMigration.Slot
import HookMigration.Text.Trim

/-!
# Replacement templates

A template is what a matched signature is replaced by: literal text, and references to the slots
that the match captured.  Literals that meet are merged, so a template has one form.
-/

namespace HookMigration

namespace Template

/-- One piece of a template. -/
inductive Segment
  | literal (text : String)
  | capture (slot : Slot)
  deriving DecidableEq, Repr

/-- Segments with a literal behind them, merged into a literal that ends them. -/
def appendLiteral (text : String) : List Segment → List Segment
  | [] => [.literal text]
  | [.literal before] => [.literal (before ++ text)]
  | segment :: rest => segment :: appendLiteral text rest

/-- The text of one segment, where a slot that captured nothing gives nothing. -/
def Segment.render (captured : Slot → Option String) : Segment → String
  | .literal text => text
  | .capture slot => (captured slot).getD ""

/-- A segment in the notation for templates: a dollar sign of a literal is doubled, and a slot
stands between `${` and `}`. -/
def Segment.display : Segment → String
  | .literal text => String.ofList (Text.replaceChar '$' ['$', '$'] text.toList)
  | .capture slot => "$\x7b" ++ slot.label ++ "\x7d"

end Template

/-- Literal text and references to captured slots, in order. -/
structure Template where
  segments : List Template.Segment
  deriving DecidableEq, Repr

namespace Template

/-- The template that deletes what it replaces. -/
def empty : Template := ⟨[]⟩

/-- The template with literal text behind it. -/
def pushLiteral (t : Template) (text : String) : Template :=
  if text = "" then t else ⟨appendLiteral text t.segments⟩

/-- The template with a reference behind it. -/
def pushCapture (t : Template) (slot : Slot) : Template :=
  ⟨t.segments ++ [.capture slot]⟩

/-- Whether a template deletes what it replaces. -/
def isEmpty (t : Template) : Bool :=
  t.segments.isEmpty

/-- The replacement for a match with the given captures. -/
def render (t : Template) (captured : Slot → Option String) : String :=
  Text.concat (t.segments.map (Segment.render captured))

/-- A template in its notation. -/
def display (t : Template) : String :=
  Text.concat (t.segments.map Segment.display)

end Template

end HookMigration
