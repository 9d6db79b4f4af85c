import HookMigration.Json.Basic
import HookMigration.Number.QuickReading

/-!
# Limits on JSON documents

A document that is kept as a value has limits: brackets nest at most 127 deep, every number is
finite, and every string denotes a text.  Of an object with a repeated name, the first place and the
last value count.
-/

namespace HookMigration

namespace JsonNumber

/-- The floating-point number that a number is read as. -/
def toBinary64 : JsonNumber → Binary64
  | .integer negative magnitude => .ofDigits negative (Nat.toDigits 10 magnitude) [] 0
  | .decimal negative whole fraction exponent => .ofDigits negative whole fraction exponent

/-- The value of an integer that fits a signed or an unsigned word of 64 bits.  A negative zero is
no integer. -/
def toInt? : JsonNumber → Option Int
  | .integer false n => if n < Word.limit then some n else none
  | .integer true n => if 0 < n ∧ n ≤ Word.signedLimit then some (-(n : Int)) else none
  | .decimal .. => none

/-- Whether the floating-point number that a number is read as is finite. -/
def isFinite (n : JsonNumber) : Bool :=
  match n.toBinary64 with
  | .finite .. => true
  | _ => false

end JsonNumber

namespace Json

mutual

/-- Whether a value keeps the limits when brackets may nest `depth` deep. -/
def keepsLimits (depth : Nat) : Json → Bool
  | .null | .boolean _ | .string _ => true
  | .number n => n.isFinite
  | .brokenString => false
  | .array items =>
    match depth with
    | 0 => false
    | depth + 1 => itemsKeepLimits depth items
  | .object members =>
    match depth with
    | 0 => false
    | depth + 1 => membersKeepLimits depth members

/-- Whether all items keep the limits. -/
def itemsKeepLimits (depth : Nat) : List Json → Bool
  | [] => true
  | item :: items => keepsLimits depth item && itemsKeepLimits depth items

/-- Whether all members keep the limits. -/
def membersKeepLimits (depth : Nat) : List (String × Json) → Bool
  | [] => true
  | (_, value) :: members => keepsLimits depth value && membersKeepLimits depth members

end

/-- How deep the brackets of a kept document may nest. -/
def nestingLimit : Nat := 127

/-- Members with one more: a repeated name keeps its place and takes the new value. -/
def putMember (name : String) (value : Json) : List (String × Json) → List (String × Json)
  | [] => [(name, value)]
  | (n, v) :: rest => if n = name then (n, value) :: rest else (n, v) :: putMember name value rest

/-- Members without repeated names: the first place and the last value count. -/
def mergeMembers (members : List (String × Json)) : List (String × Json) :=
  members.foldl (fun merged (name, value) => putMember name value merged) []

end Json

end HookMigration
