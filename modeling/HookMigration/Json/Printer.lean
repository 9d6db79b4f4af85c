import HookMigration.Json.Basic
import HookMigration.Text.Quoted

/-!
# Printing JSON

One item or member a line, two spaces for each level, nothing between the brackets of an empty array
or object.  Strings escape quotes, backslashes and controls below the space, and nothing else.
-/

namespace HookMigration.Json

/-- One character inside a JSON string. -/
def escapedChar (c : Char) : String :=
  match c with
  | '"' => "\\\""
  | '\\' => "\\\\"
  | '\n' => "\\n"
  | '\r' => "\\r"
  | '\t' => "\\t"
  | '\x08' => "\\b"
  | '\x0c' => "\\f"
  | c =>
    if c.toNat < 0x10 then "\\u000" ++ Text.hexadecimal c.toNat
    else if c.toNat < 0x20 then "\\u00" ++ Text.hexadecimal c.toNat
    else c.toString

/-- A JSON string. -/
def quoted (s : String) : String :=
  "\"" ++ Text.concat (s.toList.map escapedChar) ++ "\""

/-- A number of a JSON document. -/
def numberText : JsonNumber → String
  | .integer negative magnitude => (if negative then "-" else "") ++ toString magnitude
  | .decimal negative whole fraction exponent =>
    (if negative then "-" else "") ++ String.ofList whole ++
      (if fraction.isEmpty then "" else "." ++ String.ofList fraction) ++ "e" ++ toString exponent

/-- The blanks at the beginning of a line at a level. -/
def indent (level : Nat) : String :=
  String.ofList (List.replicate (2 * level) ' ')

mutual

/-- A value whose lines after the first are at a level. -/
def print (level : Nat) : Json → String
  | .null => "null"
  | .boolean b => if b then "true" else "false"
  | .number n => numberText n
  | .string s => quoted s
  | .brokenString => "\"\""
  | .array [] => "[]"
  | .array (item :: items) =>
    "[\n" ++ indent (level + 1) ++ print (level + 1) item ++ printItems (level + 1) items ++ "\n" ++
      indent level ++ "]"
  | .object [] => "\x7b\x7d"
  | .object ((name, value) :: members) =>
    "\x7b\n" ++ indent (level + 1) ++ quoted name ++ ": " ++ print (level + 1) value ++
      printMembers (level + 1) members ++ "\n" ++ indent level ++ "\x7d"

/-- The items of an array after the first. -/
def printItems (level : Nat) : List Json → String
  | [] => ""
  | item :: items => ",\n" ++ indent level ++ print level item ++ printItems level items

/-- The members of an object after the first. -/
def printMembers (level : Nat) : List (String × Json) → String
  | [] => ""
  | (name, value) :: members =>
    ",\n" ++ indent level ++ quoted name ++ ": " ++ print level value ++
      printMembers level members

end

/-- A whole document. -/
def text (value : Json) : String :=
  print 0 value

end HookMigration.Json
