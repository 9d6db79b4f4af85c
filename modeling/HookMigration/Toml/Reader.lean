import HookMigration.Number.Word
import HookMigration.Toml.Tables

/-!
# Reading TOML

A document is a list of statements, one to a line.  Lines end at `'\n'` or at `'\r'` and `'\n'`; a
comment runs to the end of its line; no control but the tab stands anywhere in the text.  Brackets and
braces of values nest at most 80 deep.

Every step hands on what is left of the text.  Steps for values, strings and lists spend one unit of
fuel each, and twice the length of the text is enough: what is left of the fuel is never less than
what is left of the text, which is enough for a string or a key.
-/

namespace HookMigration.Toml

/-- A blank inside a line. -/
def isSpace (c : Char) : Bool :=
  c == ' ' || c == '\t'

/-- The text without leading blanks of its line. -/
def skipSpaces (cs : List Char) : List Char :=
  cs.dropWhile isSpace

/-- Whether a character may not stand in a text. -/
def isControl (c : Char) : Bool :=
  (c.toNat < 0x20 && c != '\t') || c.toNat == 0x7f

/-- The text behind the end of a line, if it stands there. -/
def dropNewline? : List Char → Option (List Char)
  | '\n' :: rest => some rest
  | '\r' :: '\n' :: rest => some rest
  | _ => none

/-- The text behind a comment, if it begins with one. -/
def skipComment? (cs : List Char) : Option (List Char) :=
  match cs with
  | '#' :: rest =>
    let left := rest.dropWhile (!isControl ·)
    if left.isEmpty || (dropNewline? left).isSome then some left else none
  | _ => some cs

/-- The text behind the end of a line, which a comment may precede. -/
def endLine? (cs : List Char) : Option (List Char) := do
  let rest ← skipComment? (skipSpaces cs)
  if rest.isEmpty then return [] else dropNewline? rest

/-- The text behind blanks, comments and ends of lines. -/
def skipLines? : Nat → List Char → Option (List Char)
  | 0, cs => some cs
  | fuel + 1, cs => do
    let rest ← skipComment? (skipSpaces cs)
    match dropNewline? rest with
    | some rest => skipLines? fuel rest
    | none => return rest

/-- A number of hexadecimal digits that denote a character. -/
def readCodePoint? (digits : Nat) (cs : List Char) : Option (Char × List Char) := do
  if cs.length < digits then none
  let n ← Decimal.natural? 16 (cs.take digits)
  if n < 0xd800 ∨ (0xe000 ≤ n ∧ n < 0x110000) then return (Char.ofNat n, cs.drop digits) else none

/-- The character that an escape denotes, and the text behind it. -/
def readEscape? : List Char → Option (Char × List Char)
  | 'b' :: rest => some ('\x08', rest)
  | 't' :: rest => some ('\t', rest)
  | 'n' :: rest => some ('\n', rest)
  | 'f' :: rest => some ('\x0c', rest)
  | 'r' :: rest => some ('\r', rest)
  | '"' :: rest => some ('"', rest)
  | '\\' :: rest => some ('\\', rest)
  | 'u' :: rest => readCodePoint? 4 rest
  | 'U' :: rest => readCodePoint? 8 rest
  | _ => none

/-- The rest of a string of one line behind its opening quote; escapes count if `escapes` says so.
The text read so far stands in reverse. -/
def readLineString? (quote : Char) (escapes : Bool) (text : List Char) :
    Nat → List Char → Option (List Char × List Char)
  | 0, _ => none
  | _ + 1, [] => none
  | fuel + 1, c :: rest =>
    if c = quote then some (text.reverse, rest)
    else if isControl c then none
    else if c = '\\' ∧ escapes then
      match readEscape? rest with
      | some (d, left) => readLineString? quote escapes (d :: text) fuel left
      | none => none
    else readLineString? quote escapes (c :: text) fuel rest

/-- The text behind blanks and ends of lines. -/
def skipBlankLines (cs : List Char) : List Char :=
  match cs with
  | '\r' :: '\n' :: rest => skipBlankLines rest
  | c :: rest => if isSpace c || c == '\n' then skipBlankLines rest else c :: rest
  | [] => []

/-- The text behind a backslash that ends its line, with all blanks up to the next character. -/
def dropContinuation? (cs : List Char) : Option (List Char) :=
  (dropNewline? (skipSpaces cs)).map skipBlankLines

/-- The rest of a string of several lines behind its opening quotes.  Two quotes may stand directly
before the closing three. -/
def readLongString? (quote : Char) (escapes : Bool) (text : List Char) :
    Nat → List Char → Option (List Char × List Char)
  | 0, _ => none
  | _ + 1, [] => none
  | fuel + 1, c :: rest =>
    if c = quote then
      let quotes := ((c :: rest).takeWhile (· = quote)).length
      let left := (c :: rest).dropWhile (· = quote)
      if quotes > 5 then none
      else if quotes ≥ 3 then some ((List.replicate (quotes - 3) quote ++ text).reverse, left)
      else readLongString? quote escapes (List.replicate quotes quote ++ text) fuel left
    else if c = '\\' ∧ escapes then
      match dropContinuation? rest with
      | some left => readLongString? quote escapes text fuel left
      | none =>
        match readEscape? rest with
        | some (d, left) => readLongString? quote escapes (d :: text) fuel left
        | none => none
    else if c = '\r' then
      match rest with
      | '\n' :: left => readLongString? quote escapes ('\n' :: '\r' :: text) fuel left
      | _ => none
    else if c ≠ '\n' ∧ isControl c then none
    else readLongString? quote escapes (c :: text) fuel rest

/-- A string and the text behind it. -/
def readString? (fuel : Nat) (cs : List Char) : Option (String × List Char) :=
  let read : Option (List Char × List Char) :=
    match cs with
    | '"' :: '"' :: '"' :: rest =>
      readLongString? '"' true [] fuel ((dropNewline? rest).getD rest)
    | '"' :: rest => readLineString? '"' true [] fuel rest
    | '\'' :: '\'' :: '\'' :: rest =>
      readLongString? '\'' false [] fuel ((dropNewline? rest).getD rest)
    | '\'' :: rest => readLineString? '\'' false [] fuel rest
    | _ => none
  read.map fun (text, left) => (String.ofList text, left)

/-- A character of a key without quotes. -/
def isBareKeyChar (c : Char) : Bool :=
  c.isAlphanum || c == '_' || c == '-'

/-- One part of a key, and the text behind it. -/
def readKeyPart? (fuel : Nat) (cs : List Char) : Option (String × List Char) :=
  match cs with
  | '"' :: rest =>
    (readLineString? '"' true [] fuel rest).map fun (text, left) =>
      (String.ofList text, left)
  | '\'' :: rest =>
    (readLineString? '\'' false [] fuel rest).map fun (text, left) =>
      (String.ofList text, left)
  | _ =>
    let part := cs.takeWhile isBareKeyChar
    if part.isEmpty then none else some (String.ofList part, cs.dropWhile isBareKeyChar)

/-- A dotted key, and the text behind it and the blanks that follow. -/
def readKey? : Nat → List Char → Option (List String × List Char)
  | 0, _ => none
  | fuel + 1, cs => do
    let (part, rest) ← readKeyPart? (fuel + 1) (skipSpaces cs)
    match skipSpaces rest with
    | '.' :: rest =>
      let (parts, left) ← readKey? fuel rest
      return (part :: parts, left)
    | rest => return ([part], rest)

/-- Digits without the low lines between them, which have to stand between digits. -/
def digitsOf? (isDigit : Char → Bool) : List Char → Option (List Char)
  | [] => none
  | [c] => if isDigit c then some [c] else none
  | c :: '_' :: rest => if isDigit c then (digitsOf? isDigit rest).map (c :: ·) else none
  | c :: rest => if isDigit c then (digitsOf? isDigit rest).map (c :: ·) else none

/-- A sign, if there is one, and the text behind it. -/
def takeSign : List Char → Bool × List Char
  | '-' :: rest => (true, rest)
  | '+' :: rest => (false, rest)
  | rest => (false, rest)

/-- An integer that fits a signed word of 64 bits. -/
def integerOf? (negative : Bool) (n : Nat) : Option Toml :=
  if negative then (if n ≤ Word.signedLimit then some (Toml.integer (-(n : Int))) else none)
  else (if n < Word.signedLimit then some (Toml.integer n) else none)

/-- A decimal integer behind its sign. -/
def decimalInteger? (negative : Bool) (cs : List Char) : Option Toml := do
  let digits ← digitsOf? Char.isDigit cs
  if digits.head? = some '0' ∧ digits.length > 1 then none
  integerOf? negative (← Decimal.natural? 10 digits)

/-- An integer in another base, which has no sign. -/
def basedInteger? (base : Nat) (cs : List Char) : Option Toml := do
  let digits ← digitsOf? (fun c => (Decimal.digit? base c).isSome) cs
  integerOf? false (← Decimal.natural? base digits)

/-- A decimal float behind its sign: a whole part, and a fraction or an exponent or both. -/
def decimalFloat? (negative : Bool) (cs : List Char) : Option Toml := do
  let isExponentMark (c : Char) : Bool := c == 'e' || c == 'E'
  let significand := cs.takeWhile (!isExponentMark ·)
  let exponent : Int ←
    match cs.dropWhile (!isExponentMark ·) with
    | [] => some 0
    | _ :: rest => do
      let (minus, rest) := takeSign rest
      let n ← Decimal.natural? 10 (← digitsOf? Char.isDigit rest)
      some (if minus then -(n : Int) else (n : Int))
  let whole ← digitsOf? Char.isDigit (significand.takeWhile (· ≠ '.'))
  if whole.head? = some '0' ∧ whole.length > 1 then none
  let fraction ←
    match significand.dropWhile (· ≠ '.') with
    | [] => some []
    | _ :: rest => digitsOf? Char.isDigit rest
  match Binary64.ofDecimal (← Decimal.ofParts? negative whole fraction exponent) with
  | .infinite _ => none
  | x => return .float x

/-- A value that is written as one word: a boolean or a number. -/
def wordValue? (word : List Char) : Option Toml :=
  match String.ofList word with
  | "true" => some (.boolean true)
  | "false" => some (.boolean false)
  | _ =>
    match word with
    | '0' :: 'x' :: digits => basedInteger? 16 digits
    | '0' :: 'o' :: digits => basedInteger? 8 digits
    | '0' :: 'b' :: digits => basedInteger? 2 digits
    | _ =>
      let (negative, rest) := takeSign word
      match String.ofList rest with
      | "inf" => some (.float (.infinite negative))
      | "nan" => some (.float .nan)
      | _ =>
        if rest.all fun c => c.isDigit || c == '_' then decimalInteger? negative rest
        else decimalFloat? negative rest

/-- A character of a value that is written as one word. -/
def isWordValueChar (c : Char) : Bool :=
  c.isAlphanum || c == '_' || c == '-' || c == '+' || c == '.'

/-- How deep the brackets and braces of a value may nest. -/
def nestingLimit : Nat := 80

mutual

/-- A value whose brackets and braces may nest `depth` deep, and the text behind it. -/
def readValue? (depth : Nat) : Nat → List Char → Option (Toml × List Char)
  | 0, _ => none
  | fuel + 1, cs =>
    match cs, depth with
    | '"' :: _, _ => (readString? fuel cs).map fun (s, left) => (.string s, left)
    | '\'' :: _, _ => (readString? fuel cs).map fun (s, left) => (.string s, left)
    | '[' :: _, 0 => none
    | '\x7b' :: _, 0 => none
    | '[' :: rest, depth + 1 =>
      (readItems? depth fuel rest).map fun (items, left) => (.array items, left)
    | '\x7b' :: rest, depth + 1 =>
      match skipSpaces rest with
      | '\x7d' :: left => some (.table [], left)
      | _ => do
        let (entries, left) ← readEntries? depth fuel rest
        return (← inlineTable? entries, left)
    | _, _ => do
      let value ← wordValue? (cs.takeWhile isWordValueChar)
      return (value, cs.dropWhile isWordValueChar)

/-- The items of an array behind its opening bracket, and the text behind its closing one.  A comma
may stand behind the last item. -/
def readItems? (depth : Nat) : Nat → List Char → Option (List Toml × List Char)
  | 0, _ => none
  | fuel + 1, cs => do
    match ← skipLines? fuel cs with
    | ']' :: left => return ([], left)
    | rest =>
      let (item, rest) ← readValue? depth fuel rest
      match ← skipLines? fuel rest with
      | ',' :: rest =>
        let (items, left) ← readItems? depth fuel rest
        return (item :: items, left)
      | ']' :: left => return ([item], left)
      | _ => none

/-- The entries of an inline table that is not empty, and the text behind its closing brace. -/
def readEntries? (depth : Nat) : Nat → List Char → Option (List (List String × Toml) × List Char)
  | 0, _ => none
  | fuel + 1, cs => do
    let (key, rest) ← readKey? fuel cs
    match rest with
    | '=' :: rest =>
      let (value, rest) ← readValue? depth fuel (skipSpaces rest)
      match skipSpaces rest with
      | ',' :: rest =>
        let (entries, left) ← readEntries? depth fuel rest
        return ((key, value) :: entries, left)
      | '\x7d' :: left => return ([(key, value)], left)
      | _ => none
    | _ => none

end

/-- A statement and the text behind its line. -/
def readStatement? (fuel : Nat) (cs : List Char) : Option (Statement × List Char) :=
  match cs with
  | '[' :: '[' :: rest => do
    let (key, rest) ← readKey? fuel rest
    match rest with
    | ']' :: ']' :: rest => return (.arrayHeader key, ← endLine? rest)
    | _ => none
  | '[' :: rest => do
    let (key, rest) ← readKey? fuel rest
    match rest with
    | ']' :: rest => return (.header key, ← endLine? rest)
    | _ => none
  | _ => do
    let (key, rest) ← readKey? fuel cs
    match rest with
    | '=' :: rest =>
      let (value, rest) ← readValue? nestingLimit fuel (skipSpaces rest)
      return (.entry key value, ← endLine? rest)
    | _ => none

/-- The statements of a text. -/
def readStatements? : Nat → List Char → Option (List Statement)
  | 0, _ => none
  | fuel + 1, cs => do
    match ← skipLines? fuel cs with
    | [] => return []
    | rest =>
      let (statement, left) ← readStatement? fuel rest
      let statements ← readStatements? fuel left
      return statement :: statements

/-- Reads a document: the entries of its table.  A byte order mark at its beginning is skipped. -/
def read? (text : String) : Option (List (String × Toml)) := do
  let cs :=
    match text.toList with
    | '\ufeff' :: rest => rest
    | cs => cs
  tableOf? (← readStatements? (2 * cs.length + 2) cs)

end HookMigration.Toml
