import HookMigration.Number.Binary64

/-!
# TOML values

The values of a TOML document and its statements: key-value lines and the two kinds of header.
Dates and times are not read.
-/

namespace HookMigration

/-- A TOML value. -/
inductive Toml
  | string (s : String)
  | integer (n : Int)
  | float (x : Binary64)
  | boolean (b : Bool)
  | array (items : List Toml)
  | table (entries : List (String × Toml))
  deriving Repr

namespace Toml

/-- A line of a document, where a key is the list of its dotted parts. -/
inductive Statement
  /-- A key and its value. -/
  | entry (key : List String) (value : Toml)
  /-- The header `[key]`. -/
  | header (key : List String)
  /-- The header `[[key]]`. -/
  | arrayHeader (key : List String)
  deriving Repr

end Toml

end HookMigration
