import HookMigration.Toml.Basic

/-!
# Building tables

The statements of a document define tables piece by piece.  A table remembers how it came about,
since that decides what may be added to it: a header names a table once; dotted keys extend only
tables that dotted keys made; inline tables and arrays are closed.
-/

namespace HookMigration.Toml

/-- How a table came about. -/
inductive TableOrigin
  /-- A header names it, or it is an element of an array of tables, or the document itself. -/
  | header
  /-- It lies on the way to a table that a header names. -/
  | onTheWay
  /-- Dotted keys made it. -/
  | dotted
  deriving DecidableEq, Repr

/-- What a key stands for while a document is read. -/
inductive Node
  | value (v : Toml)
  | table (origin : TableOrigin) (entries : List (String × Node))
  /-- An array of tables; the last element is the open one and comes first. -/
  | tables (elements : List (List (String × Node)))

/-- A table under way. -/
structure Body where
  origin : TableOrigin
  entries : List (String × Node)

namespace Body

/-- The table with a new value for a key, in its place if the key is there already. -/
def put (body : Body) (key : String) (node : Node) : Body :=
  if (body.entries.lookup key).isSome then
    { body with entries := body.entries.map fun (k, n) => if k = key then (k, node) else (k, n) }
  else { body with entries := body.entries ++ [(key, node)] }

/-- Changes the table that a path leads to; `dotted` says that the path belongs to a dotted key.
Tables that are missing on the way are made. -/
def alter (dotted : Bool) (change : Body → Option Body) : List String → Body → Option Body
  | [], body => change body
  | key :: rest, body =>
    match body.entries.lookup key with
    | none => do
      let child ← alter dotted change rest ⟨if dotted then .dotted else .onTheWay, []⟩
      return body.put key (.table child.origin child.entries)
    | some (.table origin entries) =>
      if dotted ∧ origin = .header then none
      else do
        let child ← alter dotted change rest ⟨origin, entries⟩
        return body.put key (.table child.origin child.entries)
    | some (.tables (last :: others)) => do
      let child ← alter dotted change rest ⟨.header, last⟩
      return body.put key (.tables (child.entries :: others))
    | some _ => none

/-- The table with a new key, if the key is free and the table is open to it. -/
def insert? (viaDots : Bool) (key : String) (value : Toml) (body : Body) : Option Body :=
  if (viaDots ∧ body.origin ≠ .dotted) ∨ (body.entries.lookup key).isSome then none
  else some (body.put key (.value value))

/-- The table with a key-value line in it. -/
def addEntry (key : List String) (value : Toml) (body : Body) : Option Body :=
  match key.getLast? with
  | none => none
  | some last => body.alter true (insert? (key.length > 1) last value) key.dropLast

/-- The table with a sub-table that a header names. -/
def openTable (key : String) (body : Body) : Option Body :=
  match body.entries.lookup key with
  | none => some (body.put key (.table .header []))
  | some (.table .onTheWay entries) => some (body.put key (.table .header entries))
  | some _ => none

/-- The table with one more element in an array of tables. -/
def openElement (key : String) (body : Body) : Option Body :=
  match body.entries.lookup key with
  | none => some (body.put key (.tables [[]]))
  | some (.tables elements) => some (body.put key (.tables ([] :: elements)))
  | some _ => none

/-- The document with one more statement, and the table that entries go to from then on. -/
def add (here : List String) (document : Body) : Statement → Option (List String × Body)
  | .entry key value => (document.alter false (addEntry key value) here).map fun d => (here, d)
  | .header key => do
    let last ← key.getLast?
    let document ← document.alter false (openTable last) key.dropLast
    return (key, document)
  | .arrayHeader key => do
    let last ← key.getLast?
    let document ← document.alter false (openElement last) key.dropLast
    return (key, document)

/-- The document with further statements. -/
def addAll (here : List String) (document : Body) : List Statement → Option Body
  | [] => some document
  | statement :: rest => do
    let (here, document) ← document.add here statement
    document.addAll here rest

end Body

mutual

/-- The finished value of a node. -/
def Node.finish : Node → Toml
  | .value v => v
  | .table _ entries => .table (finishEntries entries)
  | .tables elements => .array (finishElements elements).reverse

/-- The finished entries of a table. -/
def finishEntries : List (String × Node) → List (String × Toml)
  | [] => []
  | (key, node) :: rest => (key, node.finish) :: finishEntries rest

/-- The finished elements of an array of tables. -/
def finishElements : List (List (String × Node)) → List Toml
  | [] => []
  | entries :: rest => .table (finishEntries entries) :: finishElements rest

end

/-- The table that statements define. -/
def tableOf? (statements : List Statement) : Option (List (String × Toml)) :=
  (Body.addAll [] ⟨.header, []⟩ statements).map fun document => finishEntries document.entries

/-- The table that the entries of an inline table define. -/
def inlineTable? (entries : List (List String × Toml)) : Option Toml :=
  (tableOf? (entries.map fun (key, value) => .entry key value)).map .table

end HookMigration.Toml
