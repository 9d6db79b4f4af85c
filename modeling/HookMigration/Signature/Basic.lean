import HookMigration.Text.Trim

/-!
# Signatures

A signature is the name of a method and its parameters, each with a type and a name.  A parameter
whose name was left out carries a name derived from its position, and remembers that it does.
-/

namespace HookMigration

/-- A typed parameter of a signature. -/
structure Parameter where
  type : String
  name : String
  /-- The written signature left the name out, and `name` was filled in. -/
  synthesized : Bool
  deriving DecidableEq, Repr, Inhabited

namespace Parameter

/-- The same type and the same name, however the name came about. -/
def sameAs (p q : Parameter) : Bool :=
  p.type == q.type && p.name == q.name

/-- A parameter written out in full. -/
def display (p : Parameter) : String :=
  p.type ++ " " ++ p.name

end Parameter

/-- The name of a method and its parameters in order. -/
structure Signature where
  name : String
  parameters : List Parameter
  deriving DecidableEq, Repr, Inhabited

namespace Signature

/-- A signature written out in full, with every parameter named. -/
def display (s : Signature) : String :=
  s.name ++ "(" ++ Text.joinWith ", " (s.parameters.map Parameter.display) ++ ")"

end Signature

/-- Why a text is no signature. -/
inductive ParseCause
  /-- The text is no name with a parenthesised list behind it. -/
  | invalidSignature
  /-- One piece of the list is no type with an optional name. -/
  | invalidParameter
  /-- A removed hook has nothing before its first parenthesis. -/
  | missingHookName
  deriving DecidableEq, Repr

/-- The wording of a cause. -/
def ParseCause.reason : ParseCause → String
  | .invalidSignature => "invalid method signature"
  | .invalidParameter => "invalid parameter in signature"
  | .missingHookName => "missing hook name"

/-- A cause together with the part of the text that shows it. -/
structure ParseError where
  cause : ParseCause
  offending : String
  deriving DecidableEq, Repr

/-- The wording of a parse error. -/
def ParseError.message (e : ParseError) : String :=
  e.cause.reason ++ ": '" ++ e.offending ++ "'"

end HookMigration
