import HookMigration.Text.Trim
import HookMigration.Text.UnprintableTable

/-!
# Quoted texts

How an error message shows a string value: between double quotes, with the usual short escapes, and
with code points in braces for characters that have no visible form.
-/

namespace HookMigration.Text

/-- A number in lowercase hexadecimal. -/
def hexadecimal (n : Nat) : String :=
  String.ofList (Nat.toDigits 16 n)

/-- One character inside double quotes. -/
def quotedChar (c : Char) : String :=
  match c with
  | '"' => "\\\""
  | '\\' => "\\\\"
  | '\n' => "\\n"
  | '\r' => "\\r"
  | '\t' => "\\t"
  | '\x00' => "\\0"
  | c =>
    if inRanges c.toNat unprintableRanges then "\\u\x7b" ++ hexadecimal c.toNat ++ "\x7d"
    else c.toString

/-- A text between double quotes. -/
def quoted (s : String) : String :=
  "\"" ++ concat (s.toList.map quotedChar) ++ "\""

end HookMigration.Text
