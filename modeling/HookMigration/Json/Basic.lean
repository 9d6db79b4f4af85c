/-!
# JSON values

Objects keep their members in the order in which they are written, repeated names included.
-/

namespace HookMigration

/-- A number of a JSON document: an integer without fraction and exponent, or any other. -/
inductive JsonNumber
  | integer (negative : Bool) (magnitude : Nat)
  /-- The digits before and behind the point, and the power of ten. -/
  | decimal (negative : Bool) (whole fraction : List Char) (exponent : Int)
  deriving DecidableEq, Repr

/-- A JSON value. -/
inductive Json
  | null
  | boolean (b : Bool)
  | number (n : JsonNumber)
  | string (s : String)
  /-- A string with an escape for half of a surrogate pair, which denotes no text. -/
  | brokenString
  | array (items : List Json)
  | object (members : List (String × Json))
  deriving Repr

namespace Json

/-- A natural number. -/
def nat (n : Nat) : Json := .number (.integer false n)

/-- A value that may be missing. -/
def optional (encode : α → Json) : Option α → Json
  | some a => encode a
  | none => .null

/-- A member that is left out where there is no value. -/
def member? (name : String) (encode : α → Json) : Option α → List (String × Json)
  | some a => [(name, encode a)]
  | none => []

end Json

end HookMigration
