/-!
# Slots

A slot names one captured text of a matched signature: the type or the name of the parameter at a
position, counted from one.
-/

namespace HookMigration

/-- One of the two halves of a parameter. -/
inductive Half
  | type
  | name
  deriving DecidableEq, Repr

/-- The word for a half. -/
def Half.word : Half → String
  | .type => "type"
  | .name => "name"

/-- The type or the name of the parameter at a position, counted from one. -/
structure Slot where
  half : Half
  position : Nat
  deriving DecidableEq, Repr

namespace Slot

/-- The type of the parameter at a position. -/
def type (position : Nat) : Slot := ⟨.type, position⟩

/-- The name of the parameter at a position. -/
def name (position : Nat) : Slot := ⟨.name, position⟩

/-- The label of a slot, such as `type1`. -/
def label (slot : Slot) : String :=
  slot.half.word ++ toString slot.position

end Slot

end HookMigration
