import HookMigration.Pattern.Basic

/-!
# Matching a pattern

`Pattern.matchAhead?` tries a pattern at one place of a text.  A repetition takes as much as it can
and gives back one character at a time until the rest of the pattern matches; the first way that
succeeds is the match.

A place is given by the text behind it, in reverse, and the text ahead.  Of the text behind only the
last character is looked at, by a word boundary; the rest of it remembers what has been taken.
-/

namespace HookMigration.Pattern

variable {α : Type}

/-- Whether a place separates a word character from one that is none. -/
def isBoundary (behind ahead : List Char) : Bool :=
  behind.head?.any Text.isWordChar != ahead.head?.any Text.isWordChar

/-- Takes the longest run of characters in `inClass` after which `next` succeeds. -/
def takeRun (inClass : Char → Bool) (next : List Char → List Char → Option α)
    (behind : List Char) : List Char → Option α
  | [] => next behind []
  | c :: rest =>
    if inClass c then
      match takeRun inClass next (c :: behind) rest with
      | some found => some found
      | none => next behind (c :: rest)
    else next behind (c :: rest)

/-- Takes a run of at least one character. -/
def takeSome (inClass : Char → Bool) (next : List Char → List Char → Option α)
    (behind : List Char) : List Char → Option α
  | [] => none
  | c :: rest => if inClass c then takeRun inClass next (c :: behind) rest else none

/-- Takes one given character. -/
def takeChar (c : Char) (next : List Char → List Char → Option α) (behind : List Char) :
    List Char → Option α
  | [] => none
  | d :: rest => if c = d then next (d :: behind) rest else none

/-- Matches one atom, and then whatever `next` matches. -/
def Atom.run (next : List Char → List Char → Option α) (behind ahead : List Char) :
    Atom → Option α
  | .boundary => if isBoundary behind ahead then next behind ahead else none
  | .literal c => takeChar c next behind ahead
  | .blanks => takeRun Text.isBlank next behind ahead
  | .someBlanks => takeSome Text.isBlank next behind ahead
  | .word => takeSome Text.isWordChar next behind ahead

/-- Matches atoms in order, and then whatever `next` matches. -/
def runAtoms (next : List Char → List Char → Option α) :
    List Atom → List Char → List Char → Option α
  | [], behind, ahead => next behind ahead
  | a :: rest, behind, ahead => a.run (runAtoms next rest) behind ahead

/-- The texts that a match captured, by slot. -/
abbrev Captures := List (Slot × List Char)

/-- What was taken between two places, given by the texts behind them. -/
def takenBetween (first second : List Char) : List Char :=
  (second.take (second.length - first.length)).reverse

/-- Matches parts in order; gives the captured texts and the text behind the place it comes to. -/
def runParts : List Part → List Char → List Char → Option (Captures × List Char)
  | [], behind, _ => some ([], behind)
  | .atom a :: rest, behind, ahead => a.run (runParts rest) behind ahead
  | .capture slot body :: rest, behind, ahead =>
    runAtoms
      (fun behind' ahead' =>
        (runParts rest behind' ahead').map fun (captures, final) =>
          ((slot, takenBetween behind behind') :: captures, final))
      body behind ahead

/-- A stretch of text that a pattern matched. -/
structure Match where
  matched : List Char
  captures : Captures
  deriving DecidableEq, Repr

/-- The text that a match captured in a slot. -/
def Match.captured (m : Match) (slot : Slot) : Option String :=
  (m.captures.lookup slot).map String.ofList

/-- The match that begins at a place, of which the character before it is known. -/
def matchAhead? (p : Pattern) (before : Option Char) (ahead : List Char) : Option Match :=
  let behind := before.toList
  (runParts p.parts behind ahead).map fun (captures, final) =>
    ⟨takenBetween behind final, captures⟩

end HookMigration.Pattern
