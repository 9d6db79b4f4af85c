import HookMigration.Signature.Basic
import HookMigration.Signature.Split

/-!
# Reading signatures

`Signature.parse` reads `Name(Type name, Type, …)`.  The name is a word; the list lies between the
first parenthesis and the last; a parameter is a type, and optionally a name behind blanks.  A type
is a dotted identifier with type arguments, array ranks and question marks, and holds commas and
blanks only between brackets.  As in a list, the depth of brackets has no bounds; a counter of 32
bits would tell a difference only behind 2 ^ 31 unmatched ones.
-/

namespace HookMigration.Signature

/-- Whether the rest of a type is well formed when `depth` of its brackets are open. -/
def isTypeRest (depth : Nat) : List Char → Bool
  | [] => depth == 0
  | c :: rest =>
    if c = '<' ∨ c = '[' then isTypeRest (depth + 1) rest
    else if c = '>' ∨ c = ']' then
      match depth with
      | 0 => false
      | depth + 1 => isTypeRest depth rest
    else if c = ',' ∨ Text.isBlank c = true then depth != 0 && isTypeRest depth rest
    else (c == '.' || c == '?' || Text.isNameChar c) && isTypeRest depth rest

/-- Whether a text is a type: it begins with a name character, and its brackets match. -/
def isTypeToken (cs : List Char) : Bool :=
  match cs with
  | [] => false
  | c :: _ => Text.isNameChar c && isTypeRest 0 cs

/-- A parameter cut at its first blank outside of brackets, the blanks themselves left out. -/
def splitTypeName (depth : Int) : List Char → List Char × List Char
  | [] => ([], [])
  | c :: rest =>
    if Text.isBlank c ∧ depth = 0 then ([], Text.trimStart (c :: rest))
    else
      let (type, name) := splitTypeName (depth + depthStep c) rest
      (c :: type, name)

/-- The name of the parameter at a position, counted from one, that was written without one. -/
def anonymousName (position : Nat) : String :=
  "param" ++ toString position

/-- Reads one piece of a parameter list at its position, counted from one. -/
def parseParameter (position : Nat) (piece : List Char) : Except ParseError Parameter :=
  let text := Text.trim piece
  let (type, name) := splitTypeName 0 text
  if isTypeToken type && name.all Text.isNameChar then
    if name.isEmpty then .ok ⟨String.ofList type, anonymousName position, true⟩
    else .ok ⟨String.ofList type, String.ofList name, false⟩
  else .error ⟨.invalidParameter, String.ofList text⟩

/-- Reads the pieces of a parameter list, of which the first has the given position.  The first
malformed piece is the one reported. -/
def parseParameters (position : Nat) : List (List Char) → Except ParseError (List Parameter)
  | [] => .ok []
  | piece :: rest => do
    let parameter ← parseParameter position piece
    let others ← parseParameters (position + 1) rest
    return parameter :: others

/-- The name and the inner list of a text of the form `name ( list )`. -/
def splitCall? (text : List Char) : Option (List Char × List Char) :=
  let name := text.takeWhile Text.isWordChar
  match Text.trimStart (text.dropWhile Text.isWordChar) with
  | '(' :: body =>
    if name ≠ [] ∧ body.getLast? = some ')' then some (name, body.dropLast) else none
  | _ => none

/-- Reads a signature. -/
def parse (text : String) : Except ParseError Signature :=
  let text := Text.trim text.toList
  match splitCall? text with
  | none => .error ⟨.invalidSignature, String.ofList text⟩
  | some (name, list) => do
    let parameters ← parseParameters 1 (splitList (Text.trim list))
    return ⟨String.ofList name, parameters⟩

/-- The hook that a text names, be it a signature or not: what stands before its first
parenthesis, trimmed. -/
def hookName (text : String) : String :=
  String.ofList (Text.trim (text.toList.takeWhile (· ≠ '(')))

end HookMigration.Signature
