import HookMigration.Yaml.Reader

/-!
# Checks on YAML values

A value that is kept whole has no repeated key in any of its mappings, no integer that needs more than
64 bits, and no more than 128 collections within each other, counted from that of the whole document.
-/

namespace HookMigration.Yaml

/-- What a value stands for, if it is a scalar. -/
def scalar? : Yaml → Option Scalar
  | .scalar text plain => some (resolve text plain)
  | _ => none

mutual

/-- Whether two values are the same; the order of the entries of a mapping does not count. -/
def same : Yaml → Yaml → Bool
  | .scalar text plain, .scalar other otherPlain => resolve text plain == resolve other otherPlain
  | .sequence items, .sequence others => sameItems items others
  | .mapping entries, .mapping others =>
    entries.length == others.length && sameEntries entries others
  | _, _ => false

/-- Whether two lists of items are the same. -/
def sameItems : List Yaml → List Yaml → Bool
  | [], [] => true
  | item :: rest, other :: others => same item other && sameItems rest others
  | _, _ => false

/-- Whether all entries are found among others. -/
def sameEntries : List (Yaml × Yaml) → List (Yaml × Yaml) → Bool
  | [], _ => true
  | (key, value) :: rest, others =>
    (others.any fun (k, v) => same key k && same value v) && sameEntries rest others

end

/-- Whether a key stands among entries. -/
def hasKey (key : Yaml) (entries : List (Yaml × Yaml)) : Bool :=
  entries.any fun (k, _) => same key k

/-- Whether the keys of entries differ. -/
def distinctKeys : List (Yaml × Yaml) → Bool
  | [] => true
  | (key, _) :: rest => !hasKey key rest && distinctKeys rest

/-- Whether a scalar is kept. -/
def keepsScalar : Scalar → Bool
  | .hugeInteger _ => false
  | _ => true

mutual

/-- Whether a value is kept when collections in it may nest `depth` deep. -/
def keeps (depth : Nat) : Yaml → Bool
  | .scalar text plain => keepsScalar (resolve text plain)
  | .sequence items =>
    match depth with
    | 0 => false
    | depth + 1 => keepsItems depth items
  | .mapping entries =>
    match depth with
    | 0 => false
    | depth + 1 => distinctKeys entries && keepsEntries depth entries

/-- Whether all items are kept. -/
def keepsItems (depth : Nat) : List Yaml → Bool
  | [] => true
  | item :: rest => keeps depth item && keepsItems depth rest

/-- Whether all keys and values of entries are kept. -/
def keepsEntries (depth : Nat) : List (Yaml × Yaml) → Bool
  | [] => true
  | (key, value) :: rest => keeps depth key && keeps depth value && keepsEntries depth rest

end

/-- How deep collections may nest in a document. -/
def nestingLimit : Nat := 128

/-- Entries by the texts of their keys, unless a key is no scalar. -/
def fieldsOf? : List (Yaml × Yaml) → Option (List (String × Yaml))
  | [] => some []
  | (.scalar text _, value) :: rest => (fieldsOf? rest).map ((text, value) :: ·)
  | _ :: _ => none

/-- The fields of a document that is read as a record; a document that is empty has none. -/
def recordFields? : Option Yaml → Option (List (String × Yaml))
  | none => some []
  | some (.scalar "" true) => some []
  | some (.mapping entries) => fieldsOf? entries
  | some _ => none

/-- The value of a field that may be written once. -/
def uniqueField? (fields : List (String × Yaml)) (name : String) : Option (Option Yaml) :=
  match fields.filter (·.1 == name) with
  | [] => some none
  | [(_, value)] => some (some value)
  | _ => none

end HookMigration.Yaml
