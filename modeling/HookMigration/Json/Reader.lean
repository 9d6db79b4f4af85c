import HookMigration.Json.Basic
import HookMigration.Number.Decimal

/-!
# Reading JSON

A strict reader: no comments, no trailing commas, nothing but blanks around the document, no raw
controls in strings and no needless zeros in numbers.

Every step hands on what is left of the text.  The steps for values spend one unit of fuel each, and
twice the length of the text is enough, since a value or a separator lies between any two.  What is
left of the fuel is never less than what is left of the text, so it is enough for a string as well.
-/

namespace HookMigration.Json

/-- The text without leading blanks of JSON. -/
def skipBlanks (cs : List Char) : List Char :=
  cs.dropWhile fun c => c == ' ' || c == '\n' || c == '\t' || c == '\r'

/-- The rest of a text that begins with another one. -/
def dropText? : List Char → List Char → Option (List Char)
  | [], rest => some rest
  | c :: cs, d :: rest => if c = d then dropText? cs rest else none
  | _ :: _, [] => none

/-- Four hexadecimal digits. -/
def readUnit? : List Char → Option (Nat × List Char)
  | a :: b :: c :: d :: rest => (Decimal.natural? 16 [a, b, c, d]).map fun n => (n, rest)
  | _ => none

/-- The short escapes: a character behind a backslash and what it denotes. -/
def shortEscape? : Char → Option Char
  | '"' => some '"'
  | '\\' => some '\\'
  | '/' => some '/'
  | 'b' => some '\x08'
  | 'f' => some '\x0c'
  | 'n' => some '\n'
  | 'r' => some '\r'
  | 't' => some '\t'
  | _ => none

/-- What the escape of a code unit denotes: a character, with the second unit of a pair if it needs
one, or nothing for half of a pair.  Gives the rest behind the escape. -/
def decodeUnit (unit : Nat) (rest : List Char) : Option Char × List Char :=
  if 0xd800 ≤ unit ∧ unit < 0xdc00 then
    match rest with
    | '\\' :: 'u' :: more =>
      match readUnit? more with
      | some (low, left) =>
        if 0xdc00 ≤ low ∧ low < 0xe000 then
          (some (Char.ofNat (0x10000 + (unit - 0xd800) * 0x400 + (low - 0xdc00))), left)
        else (none, rest)
      | none => (none, rest)
    | _ => (none, rest)
  else if 0xdc00 ≤ unit ∧ unit < 0xe000 then (none, rest)
  else (some (Char.ofNat unit), rest)

/-- The rest of a string behind its opening quote.  The text read so far, `text`, stands in reverse;
it is missing once an escape denoted nothing. -/
def readString? (text : Option (List Char)) :
    Nat → List Char → Option (Option (List Char) × List Char)
  | 0, _ => none
  | _ + 1, [] => none
  | fuel + 1, c :: rest =>
    if c = '"' then some (text.map List.reverse, rest)
    else if c.toNat < 0x20 then none
    else if c = '\\' then
      match rest with
      | [] => none
      | 'u' :: more =>
        match readUnit? more with
        | none => none
        | some (unit, left) =>
          match decodeUnit unit left with
          | (some d, left) => readString? (text.map (d :: ·)) fuel left
          | (none, left) => readString? none fuel left
      | d :: more => (shortEscape? d).bind fun e => readString? (text.map (e :: ·)) fuel more
    else readString? (text.map (c :: ·)) fuel rest

/-- A string as a value. -/
def ofText? : Option (List Char) → Json
  | some text => .string (String.ofList text)
  | none => .brokenString

/-- An exponent, if there is one: an `e`, an optional sign and digits. -/
def readExponent? (cs : List Char) : Option (Option Int × List Char) :=
  match cs with
  | [] => some (none, [])
  | c :: rest =>
    if c = 'e' ∨ c = 'E' then
      let (sign, rest) : Int × List Char :=
        match rest with
        | '-' :: more => (-1, more)
        | '+' :: more => (1, more)
        | _ => (1, rest)
      let (digits, left) := Decimal.takeDigits rest
      (Decimal.natural? 10 digits).map fun n => (some (sign * n), left)
    else some (none, cs)

/-- A fraction, if there is one: a point and digits. -/
def readFraction? (cs : List Char) : Option (Option (List Char) × List Char) :=
  match cs with
  | '.' :: rest =>
    let (digits, left) := Decimal.takeDigits rest
    if digits.isEmpty then none else some (some digits, left)
  | _ => some (none, cs)

/-- A number. -/
def readNumber? (cs : List Char) : Option (JsonNumber × List Char) := do
  let (negative, cs) : Bool × List Char :=
    match cs with
    | '-' :: rest => (true, rest)
    | _ => (false, cs)
  let (whole, cs) := Decimal.takeDigits cs
  if whole.isEmpty || (whole.head? = some '0' && whole.length > 1) then none
  let (fraction, cs) ← readFraction? cs
  let (exponent, cs) ← readExponent? cs
  match fraction, exponent with
  | none, none => return (.integer negative (← Decimal.natural? 10 whole), cs)
  | fraction, exponent =>
    return (.decimal negative whole (fraction.getD []) (exponent.getD 0), cs)

mutual

/-- A value and the rest behind it. -/
def readValue? : Nat → List Char → Option (Json × List Char)
  | 0, _ => none
  | fuel + 1, cs =>
    match skipBlanks cs with
    | [] => none
    | '"' :: rest =>
      (readString? (some []) fuel rest).map fun (text, left) => (ofText? text, left)
    | '[' :: rest =>
      match skipBlanks rest with
      | ']' :: left => some (.array [], left)
      | _ => (readItems? fuel rest).map fun (items, left) => (.array items, left)
    | '\x7b' :: rest =>
      match skipBlanks rest with
      | '\x7d' :: left => some (.object [], left)
      | _ => (readMembers? fuel rest).map fun (members, left) => (.object members, left)
    | 't' :: rest => (dropText? "rue".toList rest).map fun left => (.boolean true, left)
    | 'f' :: rest => (dropText? "alse".toList rest).map fun left => (.boolean false, left)
    | 'n' :: rest => (dropText? "ull".toList rest).map fun left => (.null, left)
    | c :: rest => (readNumber? (c :: rest)).map fun (n, left) => (.number n, left)

/-- The items of an array that is not empty, and the rest behind its closing bracket. -/
def readItems? : Nat → List Char → Option (List Json × List Char)
  | 0, _ => none
  | fuel + 1, cs => do
    let (item, rest) ← readValue? fuel cs
    match skipBlanks rest with
    | ',' :: rest =>
      let (items, left) ← readItems? fuel rest
      return (item :: items, left)
    | ']' :: left => return ([item], left)
    | _ => none

/-- The members of an object that is not empty, and the rest behind its closing brace.  A name has
to denote a text. -/
def readMembers? : Nat → List Char → Option (List (String × Json) × List Char)
  | 0, _ => none
  | fuel + 1, cs =>
    match skipBlanks cs with
    | '"' :: rest => do
      let (text, rest) ← readString? (some []) fuel rest
      let name := String.ofList (← text)
      match skipBlanks rest with
      | ':' :: rest =>
        let (value, rest) ← readValue? fuel rest
        match skipBlanks rest with
        | ',' :: rest =>
          let (members, left) ← readMembers? fuel rest
          return ((name, value) :: members, left)
        | '\x7d' :: left => return ([(name, value)], left)
        | _ => none
      | _ => none
    | _ => none

end

/-- Reads a whole document. -/
def read? (text : String) : Option Json :=
  let cs := text.toList
  match readValue? (2 * cs.length + 2) cs with
  | some (value, rest) => if (skipBlanks rest).isEmpty then some value else none
  | none => none

end HookMigration.Json
