/-!
# Decimal literals

A number as it is written: a sign, digits, and the power of ten that the last digit counts.
-/

namespace HookMigration

/-- The number `± digits · 10 ^ exponent`. -/
structure Decimal where
  negative : Bool
  digits : Nat
  exponent : Int
  deriving DecidableEq, Repr

namespace Decimal

/-- The value of one digit in a base up to sixteen. -/
def digit? (base : Nat) (c : Char) : Option Nat :=
  let value :=
    if '0' ≤ c ∧ c ≤ '9' then c.toNat - '0'.toNat
    else if 'a' ≤ c ∧ c ≤ 'f' then c.toNat - 'a'.toNat + 10
    else if 'A' ≤ c ∧ c ≤ 'F' then c.toNat - 'A'.toNat + 10
    else base
  if value < base then some value else none

/-- The value of a text of digits, after digits with the value `sum`. -/
def digitsFrom? (base sum : Nat) : List Char → Option Nat
  | [] => some sum
  | c :: rest => (digit? base c).bind fun d => digitsFrom? base (sum * base + d) rest

/-- The value of a text of one or more digits in a base up to sixteen. -/
def natural? (base : Nat) (cs : List Char) : Option Nat :=
  if cs.isEmpty then none else digitsFrom? base 0 cs

/-- A text of digits as a number, and the rest; the digits may be none. -/
def takeDigits (cs : List Char) : List Char × List Char :=
  (cs.takeWhile Char.isDigit, cs.dropWhile Char.isDigit)

/-- The value of an optional sign and digits. -/
def signed? (cs : List Char) : Option Int :=
  match cs with
  | '-' :: rest => (natural? 10 rest).map fun n => -(n : Int)
  | '+' :: rest => (natural? 10 rest).map fun n => (n : Int)
  | _ => (natural? 10 cs).map fun n => (n : Int)

/-- The number with a whole part, a fraction and an exponent. -/
def ofParts? (negative : Bool) (whole fraction : List Char) (exponent : Int) : Option Decimal :=
  (natural? 10 (whole ++ fraction)).map fun digits =>
    ⟨negative, digits, exponent - fraction.length⟩

end Decimal

end HookMigration
