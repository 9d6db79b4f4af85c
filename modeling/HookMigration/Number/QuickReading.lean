import HookMigration.Number.Binary64
import HookMigration.Number.Word

/-!
# Reading a number in two roundings

A quick way to read a decimal literal: the digits are taken into a word of 64 bits as long as they
fit, the word is rounded, and the result is multiplied or divided by a rounded power of ten.  Literals
of few digits come out as the nearest number; others may miss it in the last place.
-/

namespace HookMigration.Binary64

/-- The nearest number to a product.  A first factor that is not finite stays what it is. -/
def mul : Binary64 → Binary64 → Binary64
  | .finite negative s e, .finite negative' t f =>
    let (num, den) := scaled (s * t) 1 2 (e + f)
    ofFraction (negative != negative') num den
  | x, _ => x

/-- The nearest number to a quotient.  A dividend that is not finite stays what it is. -/
def div : Binary64 → Binary64 → Binary64
  | .finite negative s e, .finite negative' t f =>
    let (num, den) := scaled s t 2 (e - f)
    ofFraction (negative != negative') num den
  | x, _ => x

/-- The nearest number to a power of ten. -/
def powerOfTen (n : Nat) : Binary64 :=
  ofDecimal ⟨false, 1, n⟩

/-- The greatest power of ten that is finite. -/
def greatestPower : Nat := 308

/-- A number divided by ten to the power `n`, in steps of the greatest power; three of them make zero
of any word. -/
def divideByPower (x : Binary64) (n : Nat) : Nat → Binary64
  | 0 => x
  | steps + 1 =>
    if n ≤ greatestPower then x.div (powerOfTen n)
    else (x.div (powerOfTen greatestPower)).divideByPower (n - greatestPower) steps

/-- A word times a power of ten. -/
def scaleWord (negative : Bool) (word : Nat) (exponent : Int) : Binary64 :=
  let x := ofFraction negative word 1
  if word = 0 then x
  else match exponent with
    | .ofNat n => if n ≤ greatestPower then x.mul (powerOfTen n) else .infinite negative
    | .negSucc n => x.divideByPower (n + 1) 4

/-- Digits taken into a word as long as they fit, and the digits that are left. -/
def takeWord (word : Nat) : List Char → Nat × List Char
  | [] => (word, [])
  | c :: rest =>
    let next := 10 * word + (c.toNat - '0'.toNat)
    if next < Word.limit then takeWord next rest else (word, c :: rest)

/-- The number read from a whole part, a fraction and an exponent.  Digits of the whole part that do
not fit count as zeros; those of the fraction are left out. -/
def ofDigits (negative : Bool) (whole fraction : List Char) (exponent : Int) : Binary64 :=
  let (word, zeros) := takeWord 0 whole
  let (word, left) := takeWord word fraction
  scaleWord negative word (exponent + zeros.length - (fraction.length - left.length))

end HookMigration.Binary64
