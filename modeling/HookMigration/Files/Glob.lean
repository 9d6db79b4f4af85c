import HookMigration.Files.Path

/-!
# Glob patterns

A glob pattern names files by a path in which `?` stands for one character, `*` for any number of
them, `[a-c]` for one of a class, `[!a-c]` for one outside of it, and the whole component `**` for
any number of folders.  Braces have no meaning.  Errors give the place of the fault, in characters.
-/

namespace HookMigration

namespace Glob

/-- A member of a character class. -/
inductive ClassItem
  | single (c : Char)
  | range (low high : Char)
  deriving DecidableEq, Repr

/-- A test on the characters of a name. -/
inductive Token
  | literal (c : Char)
  | anyChar
  | anyText
  | anyFolders
  | inClass (items : List ClassItem)
  | notInClass (items : List ClassItem)
  deriving DecidableEq, Repr

/-- What is wrong with a glob pattern. -/
inductive Fault
  | wildcards
  | recursiveWildcards
  | rangePattern
  deriving DecidableEq, Repr

/-- The wording of a fault. -/
def Fault.text : Fault → String
  | .wildcards => "wildcards are either regular `*` or recursive `**`"
  | .recursiveWildcards => "recursive wildcards must form a single path component"
  | .rangePattern => "invalid range pattern"

/-- A fault and its place. -/
structure PatternError where
  position : Nat
  fault : Fault
  deriving DecidableEq, Repr

/-- The wording of a pattern error. -/
def PatternError.message (e : PatternError) : String :=
  "Pattern syntax error near position " ++ toString e.position ++ ": " ++ e.fault.text

/-- The members of a class written between brackets. -/
def classItems : List Char → List ClassItem
  | low :: '-' :: high :: rest => .range low high :: classItems rest
  | c :: rest => .single c :: classItems rest
  | [] => []

/-- The inside of a class, whose first character may be a closing bracket, and the rest behind its
closing bracket. -/
def takeClass? : List Char → Option (List Char × List Char)
  | [] => none
  | first :: rest =>
    let inside := rest.takeWhile (· ≠ ']')
    match rest.dropWhile (· ≠ ']') with
    | [] => none
    | _ :: left => some (first :: inside, left)

/-- The token for a class behind its opening bracket, and the rest behind the closing one. -/
def readClass? : List Char → Option (Token × List Char)
  | '!' :: rest => (takeClass? rest).map fun (inside, left) => (.notInClass (classItems inside), left)
  | rest => (takeClass? rest).map fun (inside, left) => (.inClass (classItems inside), left)

/-- Where a token stands: the number of characters before it, and the last of them. -/
structure Cursor where
  position : Nat
  before : Option Char

/-- Reads the stars at the beginning of a text.  Two of them have to fill a component, and take the
slash behind it with them. -/
def readStars (cursor : Cursor) (cs : List Char) : Except PatternError (Token × List Char) :=
  let stars := (cs.takeWhile (· = '*')).length
  let rest := cs.dropWhile (· = '*')
  if stars > 2 then .error ⟨cursor.position + 2, .wildcards⟩
  else if stars = 2 then
    if cursor.before = none ∨ cursor.before = some '/' then
      match rest with
      | [] => .ok (.anyFolders, [])
      | '/' :: left => .ok (.anyFolders, left)
      | _ => .error ⟨cursor.position + 2, .recursiveWildcards⟩
    else .error ⟨cursor.position - 1, .recursiveWildcards⟩
  else .ok (.anyText, rest)

/-- Reads the token at the beginning of a text. -/
def readToken (cursor : Cursor) (c : Char) (rest : List Char) :
    Except PatternError (Token × List Char) :=
  if c = '?' then .ok (.anyChar, rest)
  else if c = '*' then readStars cursor (c :: rest)
  else if c = '[' then
    match readClass? rest with
    | some read => .ok read
    | none => .error ⟨cursor.position, .rangePattern⟩
  else .ok (.literal c, rest)

/-- Reads tokens, at most as many as the fuel, which the length of the text always covers. -/
def readTokens (cursor : Cursor) : Nat → List Char → Except PatternError (List Token)
  | 0, _ => .ok []
  | _ + 1, [] => .ok []
  | fuel + 1, c :: rest => do
    let (token, left) ← readToken cursor c rest
    let taken := (c :: rest).take ((c :: rest).length - left.length)
    let tokens ← readTokens ⟨cursor.position + taken.length, taken.getLast?⟩ fuel left
    return token :: tokens

/-- The tokens of a pattern. -/
def tokens (pattern : String) : Except PatternError (List Token) :=
  let cs := pattern.toList
  readTokens ⟨0, none⟩ cs.length cs

/-- Whether a class holds a character. -/
def ClassItem.holds (c : Char) : ClassItem → Bool
  | .single d => c = d
  | .range low high => low ≤ c && c ≤ high

/-- Whether a test holds of some end of a text. -/
def anyEnd (test : List Char → Bool) : List Char → Bool
  | [] => test []
  | c :: rest => test (c :: rest) || anyEnd test rest

/-- Whether a token for one character admits it. -/
def Token.admits (c : Char) : Token → Bool
  | .literal d => c = d
  | .anyChar => true
  | .inClass items => items.any (·.holds c)
  | .notInClass items => !items.any (·.holds c)
  | .anyText | .anyFolders => false

/-- Whether tokens match a whole text. -/
def matchesText : List Token → List Char → Bool
  | [], text => text.isEmpty
  | .anyText :: tokens, text => anyEnd (matchesText tokens) text
  | .anyFolders :: tokens, text => anyEnd (matchesText tokens) text
  | _ :: _, [] => false
  | token :: tokens, c :: rest => token.admits c && matchesText tokens rest

/-- One component of a pattern. -/
inductive Step
  /-- A component without wildcards. -/
  | exactly (name : String)
  /-- The component `**`. -/
  | folders
  /-- A component with wildcards. -/
  | wild (tokens : List Token)
  deriving DecidableEq, Repr

/-- The text of tokens that are all literal. -/
def literalText? : List Token → Option (List Char)
  | [] => some []
  | .literal c :: rest => (literalText? rest).map (c :: ·)
  | _ :: _ => none

/-- The step for the tokens of a component. -/
def Step.ofTokens (tokens : List Token) : Step :=
  match tokens with
  | [.anyFolders] => .folders
  | _ => match literalText? tokens with
    | some name => .exactly (String.ofList name)
    | none => .wild tokens

/-- Whether a step admits a name. -/
def Step.admits (name : String) : Step → Bool
  | .exactly text => name == text
  | .folders => true
  | .wild tokens => matchesText tokens name.toList

/-- Whether a step with wildcards begins with a literal point. -/
def Step.beginsWithPoint : Step → Bool
  | .wild (.literal '.' :: _) => true
  | _ => false

end Glob

/-- A glob pattern that has been read: whether it begins at the root, the steps to take, and whether
it asks for a folder. -/
structure Glob where
  absolute : Bool
  steps : List Glob.Step
  onlyFolders : Bool
  deriving DecidableEq, Repr

namespace Glob

/-- The components of a pattern between its slashes.  The slash in front of an absolute pattern and
one at the end add none; a pattern without any has an empty one. -/
def componentsOf (pattern : String) : List String :=
  let pieces := Path.piecesOf pattern
  let pieces := if Path.isAbsolute pattern then pieces.tail else pieces
  let pieces := if pieces.getLast? = some "" then pieces.dropLast else pieces
  if pieces.isEmpty then [""] else pieces

/-- Reads a pattern.  The whole of it has to be well formed, and each of its components. -/
def parse (pattern : String) : Except PatternError Glob := do
  let _ ← tokens pattern
  let steps ← (componentsOf pattern).mapM fun piece => (tokens piece).map Step.ofTokens
  return ⟨Path.isAbsolute pattern, steps, pattern.toList.getLast? = some '/'⟩

end Glob

end HookMigration
