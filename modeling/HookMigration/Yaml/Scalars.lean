import HookMigration.Yaml.Basic

/-!
# Reading YAML scalars

Quoted, plain and block scalars.  Lines inside of a quoted or plain scalar are folded: blanks around
the end of a line vanish, a single end of line becomes a space, and further ones stay.  Separators of
lines and of paragraphs end lines too, but always stay.

The readers take the text from the first character of the scalar, or from behind its first
indicator, and give the text of the scalar and what is left behind it.
-/

namespace HookMigration.Yaml

/-- A blank inside a line. -/
def isBlank (c : Char) : Bool :=
  c == ' ' || c == '\t'

/-- The end of a line. -/
def isBreak (c : Char) : Bool :=
  c == '\n' || c == '\u2028' || c == '\u2029'

/-- Whether a text has ended or goes on with a blank or the end of a line. -/
def blankAhead : List Char → Bool
  | [] => true
  | c :: _ => isBlank c || isBreak c

/-- Whether a line begins with a marker of documents. -/
def atMarker : List Char → Bool
  | '-' :: '-' :: '-' :: rest => blankAhead rest
  | '.' :: '.' :: '.' :: rest => blankAhead rest
  | _ => false

/-- What folding leaves of ends of lines, the last one first. -/
def folded (breaks : List Char) : List Char :=
  if breaks = ['\n'] then [' ']
  else if breaks.getLast? = some '\n' then breaks.dropLast
  else breaks

/-- The blanks and ends of lines at the beginning of a text: the blanks of the first line and the ends
of lines, the last one of each first, the column behind them, and what is left.  The column counts from
the last end of line, and from `column` before one.  No tab may stand before the column `indent` of a
line after the first. -/
def takeFold? (indent : Nat) (blanks breaks : List Char) (column : Nat) :
    List Char → Option (List Char × List Char × Nat × List Char)
  | [] => some (blanks, breaks, column, [])
  | c :: rest =>
    if isBreak c then takeFold? indent blanks (c :: breaks) 0 rest
    else if c = '\t' ∧ breaks ≠ [] ∧ column < indent then none
    else if isBlank c then
      takeFold? indent (if breaks = [] then c :: blanks else blanks) breaks (column + 1) rest
    else some (blanks, breaks, column, c :: rest)

/-- The character that a short escape denotes. -/
def shortEscape? : Char → Option Char
  | '0' => some '\x00'
  | 'a' => some '\x07'
  | 'b' => some '\x08'
  | 't' => some '\t'
  | '\t' => some '\t'
  | 'n' => some '\n'
  | 'v' => some '\x0b'
  | 'f' => some '\x0c'
  | 'r' => some '\r'
  | 'e' => some '\x1b'
  | ' ' => some ' '
  | '"' => some '"'
  | '/' => some '/'
  | '\\' => some '\\'
  | 'N' => some '\u0085'
  | '_' => some '\u00a0'
  | 'L' => some '\u2028'
  | 'P' => some '\u2029'
  | _ => none

/-- A number of hexadecimal digits that denote a character. -/
def readCodePoint? (digits : Nat) (cs : List Char) : Option (Char × List Char) := do
  if cs.length < digits then none
  let n ← Decimal.natural? 16 (cs.take digits)
  if n < 0xd800 ∨ (0xe000 ≤ n ∧ n < 0x110000) then return (Char.ofNat n, cs.drop digits) else none

/-- The character that an escape denotes, behind its backslash. -/
def readEscape? : List Char → Option (Char × List Char)
  | [] => none
  | 'x' :: rest => readCodePoint? 2 rest
  | 'u' :: rest => readCodePoint? 4 rest
  | 'U' :: rest => readCodePoint? 8 rest
  | c :: rest => (shortEscape? c).map fun d => (d, rest)

/-- The rest of a quoted scalar behind its opening quote.  The text read so far stands in reverse.
In double quotes escapes count, and a backslash at the end of a line joins it to the next; in single
quotes a quote is written twice. -/
def readQuoted? (double : Bool) (text : List Char) :
    Nat → List Char → Option (List Char × List Char)
  | 0, _ => none
  | _ + 1, [] => none
  | fuel + 1, c :: rest =>
    if c = '"' ∧ double then some (text.reverse, rest)
    else if c = '\'' ∧ !double then
      match rest with
      | '\'' :: left => readQuoted? double ('\'' :: text) fuel left
      | _ => some (text.reverse, rest)
    else if c = '\\' ∧ double then
      if rest.head?.any isBreak then
        match takeFold? 0 [] [] 1 rest with
        | some (_, breaks, column, left) =>
          if column = 0 ∧ atMarker left then none
          else readQuoted? double (breaks.dropLast ++ text) fuel left
        | none => none
      else
        match readEscape? rest with
        | some (d, left) => readQuoted? double (d :: text) fuel left
        | none => none
    else if isBlank c ∨ isBreak c then
      match takeFold? 0 [] [] 1 (c :: rest) with
      | some (blanks, breaks, column, left) =>
        if column = 0 ∧ atMarker left then none
        else if breaks = [] then readQuoted? double (blanks ++ text) fuel left
        else readQuoted? double (folded breaks ++ text) fuel left
      | none => none
    else readQuoted? double (c :: text) fuel rest

/-- A character that ends a plain scalar between brackets. -/
def isFlowMark (c : Char) : Bool :=
  c == ',' || c == '[' || c == ']' || c == '\x7b' || c == '\x7d'

/-- Whether a plain scalar ends before a character that no blank precedes. -/
def endsPlain (flow : Bool) (c : Char) (rest : List Char) : Bool :=
  (c == ':' && blankAhead rest) || (flow && isFlowMark c)

/-- Whether a character may not follow a colon inside a plain scalar between brackets. -/
def badColon (flow : Bool) (c : Char) (rest : List Char) : Bool :=
  flow && c == ':' && (rest.head?.any fun d => isFlowMark d || d == '?')

/-- Whether a text can begin a plain scalar. -/
def startsPlain (flow : Bool) : List Char → Bool
  | [] => false
  | c :: rest =>
    if c = '-' then !blankAhead rest
    else if c = '?' ∨ c = ':' then !flow && !blankAhead rest
    else !(isBlank c || isBreak c || isFlowMark c ||
      c ∈ ['#', '&', '*', '!', '|', '>', '\'', '"', '%', '@', '\x60'])

/-- The rest of a plain scalar.  The text read so far stands in reverse; `indent` is the least column
of a further line outside of brackets. -/
def readPlain? (flow : Bool) (indent : Nat) (text : List Char) :
    Nat → List Char → Option (List Char × List Char)
  | 0, _ => none
  | _ + 1, [] => some (text.reverse, [])
  | fuel + 1, c :: rest =>
    if isBlank c ∨ isBreak c then
      match takeFold? indent [] [] 1 (c :: rest) with
      | none => none
      | some (blanks, breaks, column, left) =>
        let stop := some (text.reverse, c :: rest)
        match left with
        | [] => stop
        | d :: more =>
          if d = '#' ∨ endsPlain flow d more then stop
          else if breaks ≠ [] ∧ ((!flow ∧ column < indent) ∨ (column = 0 ∧ atMarker left)) then stop
          else if badColon flow d more then none
          else
            let between := if breaks = [] then blanks else folded breaks
            readPlain? flow indent (d :: (between ++ text)) fuel more
    else if endsPlain flow c rest then some (text.reverse, c :: rest)
    else if badColon flow c rest then none
    else readPlain? flow indent (c :: text) fuel rest

/-- How a block scalar treats the ends of lines at its end. -/
inductive Chomping
  | strip
  | clip
  | keep
  deriving DecidableEq, Repr

/-- The header of a block scalar: chomping and indentation, each at most once, in any order. -/
def readBlockHeader (cs : List Char) : Chomping × Option Nat × List Char :=
  match cs with
  | '+' :: rest => withIndent .keep rest
  | '-' :: rest => withIndent .strip rest
  | c :: rest =>
    if '1' ≤ c ∧ c ≤ '9' then
      let indent := some (c.toNat - '0'.toNat)
      match rest with
      | '+' :: left => (.keep, indent, left)
      | '-' :: left => (.strip, indent, left)
      | _ => (.clip, indent, rest)
    else (.clip, none, cs)
  | [] => (.clip, none, [])
where
  /-- An indentation may follow the chomping. -/
  withIndent (chomping : Chomping) (cs : List Char) : Chomping × Option Nat × List Char :=
    match cs with
    | c :: rest =>
      if '1' ≤ c ∧ c ≤ '9' then (chomping, some (c.toNat - '0'.toNat), rest)
      else (chomping, none, cs)
    | [] => (chomping, none, [])

/-- The text behind the end of a line on which nothing but blanks and a comment stands. -/
def endLine? (cs : List Char) : Option (List Char) :=
  let left :=
    match cs.dropWhile isBlank with
    | '#' :: rest => rest.dropWhile (!isBreak ·)
    | rest => rest
  match left with
  | [] => some []
  | c :: rest => if isBreak c then some rest else none

/-- The empty lines at the beginning of a text: their ends, the last one first, the greatest number of
spaces among them, the column behind them, and what is left.  At most `limit` spaces of a line are
taken, if there is a limit; a tab may not stand among them. -/
def takeEmptyLines? (limit : Option Nat) (breaks : List Char) (widest : Nat) :
    Nat → List Char → Option (List Char × Nat × Nat × List Char)
  | 0, _ => none
  | fuel + 1, cs =>
    let spaces := (cs.takeWhile (· = ' ')).length
    let taken := match limit with
      | some n => min n spaces
      | none => spaces
    let widest := max widest taken
    match cs.drop taken with
    | [] => some (breaks, widest, taken, [])
    | c :: rest =>
      if isBreak c then takeEmptyLines? limit (c :: breaks) widest fuel rest
      else if c = '\t' ∧ limit.all (taken < ·) then none
      else some (breaks, widest, taken, c :: rest)

/-- What stands between two lines of a block scalar, the last character first: the end of the line
before, unless it is folded away, and the ends of the empty lines since. -/
def betweenLines (literal nearBlank : Bool) (lineEnd : Option Char) (empty : List Char) : List Char :=
  match lineEnd with
  | none => empty
  | some c =>
    if c = '\n' ∧ !literal ∧ !nearBlank then (if empty = [] then [' '] else empty)
    else empty ++ [c]

/-- The lines of a block scalar whose indentation is known, from the first character of one.  What
has been read stands in reverse, without the end of its last line, `lineEnd`, and without the ends of
the empty lines since, `empty`.  `blankBefore` says that the line before begins with a blank; `column`
is the column of the text, as is the number that comes with what is left. -/
def readBlockLines? (literal : Bool) (indent : Nat) (text : List Char) (blankBefore : Bool)
    (lineEnd : Option Char) (empty : List Char) (column : Nat) :
    Nat → List Char → Option (List Char × Option Char × List Char × Nat × List Char)
  | 0, _ => none
  | fuel + 1, cs =>
    if column ≠ indent ∨ cs.isEmpty then some (text, lineEnd, empty, column, cs)
    else
      let blankHere := cs.head?.any isBlank
      let line := cs.takeWhile (!isBreak ·)
      let text := line.reverse ++ (betweenLines literal (blankBefore || blankHere) lineEnd empty ++ text)
      match cs.dropWhile (!isBreak ·) with
      | [] => some (text, none, [], 0, [])
      | c :: rest =>
        match takeEmptyLines? (some indent) [] 0 fuel rest with
        | none => none
        | some (empty, _, column, left) =>
          readBlockLines? literal indent text blankHere (some c) empty column fuel left

/-- The rest of a block scalar behind its first indicator, in a collection whose column is one less
than `least`.  What is left begins with the end of the last line of the scalar. -/
def readBlock? (literal : Bool) (least fuel : Nat) (cs : List Char) :
    Option (List Char × List Char) := do
  let (chomping, explicit, rest) := readBlockHeader cs
  let rest ← endLine? rest
  let limit := explicit.map fun n => if least = 0 then n else least + n - 1
  let (empty, widest, column, left) ← takeEmptyLines? limit [] 0 fuel rest
  let indent := limit.getD (max (max widest least) 1)
  let (text, lineEnd, empty, column, left) ←
    readBlockLines? literal indent [] false none empty column fuel left
  let tail : List Char :=
    (if chomping ≠ .strip then lineEnd.toList else []) ++
      (if chomping = .keep then empty.reverse else [])
  let left := if left.isEmpty then [] else '\n' :: (List.replicate column ' ' ++ left)
  return (text.reverse ++ tail, left)

end HookMigration.Yaml
