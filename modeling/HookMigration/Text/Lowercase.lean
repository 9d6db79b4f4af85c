import HookMigration.Text.Classes
import HookMigration.Text.CasingTable
import HookMigration.Text.LowercaseTable

/-!
# Lowercase

The full lowercase mapping of a text.  Two characters are special: the dotted capital I becomes a
small i and a combining dot, and a capital sigma becomes the final form where it ends a word.
-/

namespace HookMigration.Text

/-- The distance that an increasing list of runs gives for `n`. -/
def runDistance? (n : Nat) : List (Nat × Nat × Nat × Nat) → Option Nat
  | [] => none
  | (first, last, step, distance) :: rest =>
    if n < first then none
    else if n ≤ last then (if (n - first) % step = 0 then some distance else runDistance? n rest)
    else runDistance? n rest

/-- The lowercase of one character out of context. -/
def lowerChar (c : Char) : Char :=
  match runDistance? c.toNat lowercaseAbove with
  | some distance => Char.ofNat (c.toNat + distance)
  | none => match runDistance? c.toNat lowercaseBelow with
    | some distance => Char.ofNat (c.toNat - distance)
    | none => c

/-- Whether a cased character follows after any number of characters that casing ignores. -/
def casedFollows : List Char → Bool
  | [] => false
  | c :: rest =>
    if inRanges c.toNat caseIgnorableRanges then casedFollows rest
    else inRanges c.toNat casedRanges

/-- The lowercase of a text, given the characters before it in reverse. -/
def lowercaseAfter (before : List Char) : List Char → List Char
  | [] => []
  | c :: rest =>
    let lower :=
      if c = 'Σ' then (if casedFollows before && !casedFollows rest then ['ς'] else ['σ'])
      else if c = 'İ' then ['i', '\u0307']
      else [lowerChar c]
    lower ++ lowercaseAfter (c :: before) rest

/-- The lowercase of a text. -/
def lowercase (cs : List Char) : List Char :=
  lowercaseAfter [] cs

end HookMigration.Text
