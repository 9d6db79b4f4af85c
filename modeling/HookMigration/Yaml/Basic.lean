import HookMigration.Number.Binary64
import HookMigration.Number.Word

/-!
# YAML values

A scalar keeps its text and whether it was written plainly, without quotes or a block indicator.
Only a plain scalar can stand for something else than its text; `resolve` says what.
-/

namespace HookMigration

/-- A YAML value. -/
inductive Yaml
  | scalar (text : String) (plain : Bool)
  | sequence (items : List Yaml)
  | mapping (entries : List (Yaml × Yaml))
  deriving Repr

namespace Yaml

/-- The value of a place where nothing is written. -/
def nothing : Yaml := .scalar "" true

/-- What a scalar stands for. -/
inductive Scalar
  | null
  | boolean (b : Bool)
  | integer (n : Int)
  /-- An integer that no word of 64 bits holds but one of 128 bits does. -/
  | hugeInteger (n : Int)
  | float (x : Binary64)
  | string (s : String)
  deriving DecidableEq, Repr

/-- Whether a plain text stands for nothing. -/
def isNull (text : String) : Bool :=
  text ∈ ["", "~", "null", "Null", "NULL"]

/-- The truth value of a plain text. -/
def boolean? (text : String) : Option Bool :=
  if text ∈ ["true", "True", "TRUE"] then some true
  else if text ∈ ["false", "False", "FALSE"] then some false
  else none

/-- A text without one plus sign in front. -/
def dropPlus : List Char → List Char
  | '+' :: rest => rest
  | cs => cs

/-- Whether a text has a zero in front of other digits, which makes it no number. -/
def hasLeadingZero (cs : List Char) : Bool :=
  match cs with
  | '-' :: rest => zeroFirst rest
  | '+' :: rest => zeroFirst rest
  | rest => zeroFirst rest
where
  /-- A zero and at least one further digit, and digits alone. -/
  zeroFirst : List Char → Bool
    | '0' :: c :: rest => (c :: rest).all Char.isDigit
    | _ => false

/-- An unsigned number in the base that its beginning names. -/
def natural? : List Char → Option Nat
  | '0' :: 'x' :: digits => Decimal.natural? 16 digits
  | '0' :: 'o' :: digits => Decimal.natural? 8 digits
  | '0' :: 'b' :: digits => Decimal.natural? 2 digits
  | digits => Decimal.natural? 10 digits

/-- The integer that a plain text stands for. -/
def integer? (cs : List Char) : Option Int :=
  if hasLeadingZero cs then none
  else match cs with
    | '-' :: rest => (natural? rest).map fun n => -(n : Int)
    | _ => (natural? (dropPlus cs)).map fun n => (n : Int)

/-- The finite decimal number that a text without a plus sign in front stands for. -/
def decimal? (cs : List Char) : Option Binary64 := do
  let (negative, cs) : Bool × List Char :=
    match cs with
    | '-' :: rest => (true, rest)
    | _ => (false, cs)
  let (whole, cs) := Decimal.takeDigits cs
  let (fraction, cs) :=
    match cs with
    | '.' :: rest => Decimal.takeDigits rest
    | _ => ([], cs)
  let exponent : Int ←
    match cs with
    | [] => some 0
    | c :: rest => if c = 'e' ∨ c = 'E' then Decimal.signed? rest else none
  match Binary64.ofDecimal (← Decimal.ofParts? negative whole fraction exponent) with
  | .finite negative significand exponent => return Binary64.finite negative significand exponent
  | _ => none

/-- The floating-point number that a plain text stands for. -/
def float? (cs : List Char) : Option Binary64 :=
  if hasLeadingZero cs then none
  else
    let text := String.ofList cs
    if String.ofList (dropPlus cs) ∈ [".inf", ".Inf", ".INF"] then some (.infinite false)
    else if text ∈ ["-.inf", "-.Inf", "-.INF"] then some (.infinite true)
    else if text ∈ [".nan", ".NaN", ".NAN"] then some .nan
    else match cs with
      | '+' :: '-' :: _ => none
      | _ => decimal? (dropPlus cs)

/-- The integer as a scalar, or nothing if even 128 bits do not hold it. -/
def integerScalar? (n : Int) : Option Scalar :=
  if -(Word.signedLimit : Int) ≤ n ∧ n < Word.limit then some (.integer n)
  else if -(Word.signedWideLimit : Int) ≤ n ∧ n < Word.wideLimit then some (.hugeInteger n)
  else none

/-- What a plain text stands for. -/
def resolvePlain (text : String) : Scalar :=
  if isNull text then .null
  else match boolean? text with
    | some b => .boolean b
    | none =>
      let cs := text.toList
      match (integer? cs).bind integerScalar? with
      | some found => found
      | none => match float? cs with
        | some x => .float x
        | none => .string text

/-- What a scalar stands for. -/
def resolve (text : String) (plain : Bool) : Scalar :=
  if plain then resolvePlain text else .string text

end Yaml

end HookMigration
