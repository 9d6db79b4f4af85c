import HookMigration.Number.Decimal
import HookMigration.Text.Trim

/-!
# Binary floating point

A decimal literal stands for the nearest number with a significand of 53 bits, ties going to the
even one.  It is shown with the fewest digits that read back as the same number: `display` has no
exponent and at least one digit behind the point, and `displayShort` writes very large and very small
numbers with an exponent.
-/

namespace HookMigration

/-- A number of the binary64 format: `± significand · 2 ^ exponent`, or beyond. -/
inductive Binary64
  | finite (negative : Bool) (significand : Nat) (exponent : Int)
  | infinite (negative : Bool)
  | nan
  deriving DecidableEq, Repr

namespace Binary64

/-- The least exponent of a finite number. -/
def leastExponent : Int := -1074

/-- The greatest exponent of a finite number. -/
def greatestExponent : Int := 971

/-- The least significand that fills its 53 bits. -/
def leastFull : Nat := 0x10000000000000

/-- The least number that needs more than 53 bits. -/
def tooWide : Nat := 0x20000000000000

/-- A fraction times a power of a base. -/
def scaled (num den base : Nat) (exponent : Int) : Nat × Nat :=
  if exponent ≥ 0 then (num * base.pow exponent.toNat, den)
  else (num, den * base.pow (-exponent).toNat)

/-- The integer nearest to a fraction; a tie goes to the even one. -/
def roundEven (num den : Nat) : Nat :=
  let floor := num / den
  let twice := 2 * (num % den)
  if twice < den then floor
  else if twice > den then floor + 1
  else floor + floor % 2

/-- The nearest number to the fraction `num / den`. -/
def ofFraction (negative : Bool) (num den : Nat) : Binary64 :=
  if num = 0 then .finite negative 0 leastExponent
  else
    let guess : Int := (num.log2 : Int) - den.log2 - 52
    let (n, d) := scaled num den 2 (-guess)
    let exponent := max leastExponent (if n / d < leastFull then guess - 1 else guess)
    let (n, d) := scaled num den 2 (-exponent)
    let significand := roundEven n d
    let (significand, exponent) :=
      if significand = tooWide then (leastFull, exponent + 1) else (significand, exponent)
    if exponent > greatestExponent then .infinite negative
    else .finite negative significand exponent

/-- The nearest number to a decimal.  Powers of ten beyond the format are not computed. -/
def ofDecimal (d : Decimal) : Binary64 :=
  let length : Int := (Nat.toDigits 10 d.digits).length
  if d.digits = 0 then .finite d.negative 0 leastExponent
  else if length + d.exponent > 310 then .infinite d.negative
  else if length + d.exponent < -330 then .finite d.negative 0 leastExponent
  else
    let (num, den) := scaled d.digits 1 10 d.exponent
    ofFraction d.negative num den

/-- Whether the fraction `num / den` reads back as a positive finite number. -/
def readsBack (significand : Nat) (exponent : Int) (num den : Nat) : Bool :=
  ofFraction false num den == .finite false significand exponent

/-- The digits, on the grid of multiples of `10 ^ power`, of the nearest point that reads back as a
positive number, if one of its two neighbours there does. -/
def onGrid? (significand : Nat) (exponent power : Int) : Option Nat :=
  let (num, den) := scaled significand 1 2 exponent
  let (n, d) := scaled num den 10 (-power)
  let floor := n / d
  let reads (point : Nat) : Bool :=
    let (a, b) := scaled point 1 10 power
    readsBack significand exponent a b
  let nearest := roundEven n d
  let other := if nearest = floor then floor + 1 else floor
  if reads nearest then some nearest else if reads other then some other else none

/-- The shortest digits of a positive number and the power of ten they count, trying grids from
`10 ^ power` downwards. -/
def shortestFrom (significand : Nat) (exponent power : Int) : Nat → Nat × Int
  | 0 => (((onGrid? significand exponent power).getD 0), power)
  | tries + 1 =>
    match onGrid? significand exponent power with
    | some digits => if digits = 0 then shortestFrom significand exponent (power - 1) tries
      else (digits, power)
    | none => shortestFrom significand exponent (power - 1) tries

/-- The shortest digits of a positive number and the power of ten they count. -/
def shortest (significand : Nat) (exponent : Int) : Nat × Int :=
  shortestFrom significand exponent 309 700

/-- Digits and a power of ten, written with a point and at least one digit on each side. -/
def positional (digits : Nat) (power : Int) : String :=
  let text := Nat.toDigits 10 digits
  if power ≥ 0 then String.ofList (text ++ List.replicate power.toNat '0') ++ ".0"
  else
    let places := (-power).toNat
    let padded := List.replicate (places + 1 - text.length) '0' ++ text
    let cut := padded.length - places
    String.ofList (padded.take cut ++ '.' :: padded.drop cut)

/-- Digits and a power of ten, written with one digit before the point and an exponent. -/
def scientific (digits : Nat) (power : Int) : String :=
  match Nat.toDigits 10 digits with
  | [] => ""
  | first :: rest =>
    let point := if rest.isEmpty then [] else '.' :: rest
    String.ofList (first :: point) ++ "e" ++ toString (power + rest.length)

/-- Digits and a power of ten, without an exponent where the point stands at most sixteen digits
behind the first one, or at most five places before it. -/
def positionalOrScientific (digits : Nat) (power : Int) : String :=
  let place := (Nat.toDigits 10 digits).length + power
  if -5 < place ∧ place ≤ 16 then positional digits power else scientific digits power

/-- A number whose digits are written by `write`. -/
def displayBy (write : Nat → Int → String) : Binary64 → String
  | .finite negative significand exponent =>
    let text :=
      if significand = 0 then "0.0"
      else
        let (digits, power) := shortest significand exponent
        write digits power
    if negative then "-" ++ text else text
  | .infinite negative => if negative then "-inf" else "inf"
  | .nan => "NaN"

/-- A number as it is shown without an exponent. -/
def display : Binary64 → String :=
  displayBy positional

/-- A number as it is shown with an exponent where that is shorter to read. -/
def displayShort : Binary64 → String :=
  displayBy positionalOrScientific

end Binary64

end HookMigration
