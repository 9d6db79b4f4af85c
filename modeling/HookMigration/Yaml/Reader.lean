import HookMigration.Yaml.Scalars

/-!
# Reading YAML

One document of block and flow collections, quoted, plain and block scalars.  Anchors, tags,
directives and keys behind a question mark are not read.

A block collection is known by the column of its entries: what belongs to an entry lies to the right
of that column, except that the items of a list may begin in the column of the key they belong to,
and a block scalar in the column of its entry.
Every step hands on what is left of the text.  Steps spend one unit of fuel each, and `fuelFor` the
text is enough: no more than two steps for a node lie between two characters, and what is left of the
fuel is enough for a scalar as well.
-/

namespace HookMigration.Yaml

/-- A place in a text: its column, and what follows. -/
structure Point where
  column : Nat
  rest : List Char

/-- The blanks, comments and ends of lines up to the next content: whether an end of line was
crossed, and where the content begins.  Tabs may stand only where `tabs` says so, before the first
end of line. -/
def gap? (tabs crossed comment : Bool) (column : Nat) : List Char → Option (Bool × Point)
  | [] => some (crossed, ⟨column, []⟩)
  | c :: rest =>
    if isBreak c then gap? false true false 0 rest
    else if comment then gap? tabs crossed true column rest
    else if c = '#' then gap? tabs crossed true column rest
    else if c = ' ' then gap? tabs crossed false (column + 1) rest
    else if c = '\t' then
      if tabs then gap? tabs crossed false (column + 1) rest else none
    else some (crossed, ⟨column, c :: rest⟩)

/-- The content behind a node that has ended on its line. -/
def nextContent? (rest : List Char) : Option (Bool × Point) :=
  gap? true false false 0 rest

/-- The content behind blanks, comments and ends of lines between brackets. -/
def skipFlow (comment : Bool) : List Char → List Char
  | [] => []
  | c :: rest =>
    if isBreak c then skipFlow false rest
    else if comment then skipFlow true rest
    else if c = '#' then skipFlow true rest
    else if isBlank c then skipFlow false rest
    else c :: rest

/-- Whether the block collections around a point end there: the text ends, or a marker of documents
begins. -/
def Point.isEnd (p : Point) : Bool :=
  p.rest.isEmpty || (p.column == 0 && atMarker p.rest)

/-- Whether an item of a block sequence begins at a point. -/
def Point.isDash (p : Point) : Bool :=
  match p.rest with
  | '-' :: rest => blankAhead rest
  | _ => false

/-- Whether a block scalar begins at a point. -/
def Point.isBlock (p : Point) : Bool :=
  p.rest.head?.any fun c => c == '|' || c == '>'

/-- Whether what stands at a point, on a line of its own, belongs to an entry of a collection in a
column: it lies to the right of that column, or begins a block scalar in it. -/
def Point.isInside (p : Point) (column : Nat) : Bool :=
  p.column > column || (p.column == column && p.isBlock)

/-- Fuel enough for a text. -/
def fuelFor (cs : List Char) : Nat :=
  4 * cs.length + 4

/-- A quoted scalar whose first quote has been read, and what is left. -/
def quotedScalar? (double : Bool) (fuel : Nat) (rest : List Char) : Option (Yaml × List Char) :=
  (readQuoted? double [] fuel rest).map fun (text, left) =>
    (.scalar (String.ofList text) false, left)

/-- A plain scalar, and what is left. -/
def plainScalar? (flow : Bool) (indent fuel : Nat) (cs : List Char) : Option (Yaml × List Char) :=
  if startsPlain flow cs then
    (readPlain? flow indent [] fuel cs).map fun (text, left) =>
      (.scalar (String.ofList text) true, left)
  else none

/-- The number of characters, blanks included, that may stand between the beginning of a key and its
colon. -/
def keyLimit : Nat := 1024

/-- Whether a key that begins a text may end where `left` is left of it: it stands on one line and
keeps to the limit. -/
def allowsKey (cs left : List Char) : Bool :=
  let key := cs.take (cs.length - left.length)
  key.length ≤ keyLimit && key.all (!isBreak ·)

mutual

/-- A node between brackets. -/
def readFlow? : Nat → List Char → Option (Yaml × List Char)
  | 0, _ => none
  | fuel + 1, cs =>
    match cs with
    | '"' :: rest => quotedScalar? true fuel rest
    | '\'' :: rest => quotedScalar? false fuel rest
    | '[' :: rest => (readFlowItems? fuel rest).map fun (items, left) => (.sequence items, left)
    | '\x7b' :: rest => (readFlowEntries? fuel rest).map fun (entries, left) => (.mapping entries, left)
    | _ => plainScalar? true 0 fuel cs

/-- The value behind the colon of a key between brackets; it may be missing. -/
def readFlowValue? : Nat → List Char → Option (Yaml × List Char)
  | 0, _ => none
  | fuel + 1, cs =>
    match skipFlow false cs with
    | c :: rest =>
      if c = ',' ∨ c = ']' ∨ c = '\x7d' then some (nothing, c :: rest) else readFlow? fuel (c :: rest)
    | [] => none

/-- The items of a flow sequence behind its opening bracket.  A key with a value stands for a mapping
of one entry; a comma may stand behind the last item. -/
def readFlowItems? : Nat → List Char → Option (List Yaml × List Char)
  | 0, _ => none
  | fuel + 1, cs => do
    match skipFlow false cs with
    | ']' :: left => return ([], left)
    | cs =>
      let (node, rest) ← readFlow? fuel cs
      let (item, rest) ←
        match skipFlow false rest with
        | ':' :: rest =>
          if allowsKey cs (':' :: rest) then
            (readFlowValue? fuel rest).map fun (value, left) => (.mapping [(node, value)], left)
          else none
        | rest => some (node, rest)
      match skipFlow false rest with
      | ',' :: rest =>
        let (items, left) ← readFlowItems? fuel rest
        return (item :: items, left)
      | ']' :: left => return ([item], left)
      | _ => none

/-- The entries of a flow mapping behind its opening brace.  A key may stand without a value; a comma
may stand behind the last entry. -/
def readFlowEntries? : Nat → List Char → Option (List (Yaml × Yaml) × List Char)
  | 0, _ => none
  | fuel + 1, cs => do
    match skipFlow false cs with
    | '\x7d' :: left => return ([], left)
    | cs =>
      let (key, rest) ← readFlow? fuel cs
      let (value, rest) ←
        match skipFlow false rest with
        | ':' :: rest => if allowsKey cs (':' :: rest) then readFlowValue? fuel rest else none
        | rest => some (nothing, rest)
      match skipFlow false rest with
      | ',' :: rest =>
        let (entries, left) ← readFlowEntries? fuel rest
        return ((key, value) :: entries, left)
      | '\x7d' :: left => return ([(key, value)], left)
      | _ => none

end

/-- A key of a block mapping, and what is left behind its colon. -/
def simpleKey? (cs : List Char) : Option (Yaml × List Char) := do
  let line := cs.takeWhile (!isBreak ·)
  let (key, left) ←
    match line with
    | '"' :: _ => readFlow? (fuelFor line) line
    | '\'' :: _ => readFlow? (fuelFor line) line
    | '[' :: _ => readFlow? (fuelFor line) line
    | '\x7b' :: _ => readFlow? (fuelFor line) line
    | _ => plainScalar? false 0 (fuelFor line) line
  match left.dropWhile isBlank with
  | ':' :: rest =>
    if blankAhead rest && allowsKey line (':' :: rest) then
      return (key, rest ++ cs.dropWhile (!isBreak ·))
    else none
  | _ => none

/-- A node that is no block collection, inside of a collection whose column is one less than
`least`. -/
def readInline? (least fuel : Nat) (cs : List Char) : Option (Yaml × List Char) :=
  match cs with
  | '|' :: rest =>
    (readBlock? true least fuel rest).map fun (text, left) => (.scalar (String.ofList text) false, left)
  | '>' :: rest =>
    (readBlock? false least fuel rest).map fun (text, left) => (.scalar (String.ofList text) false, left)
  | '"' :: _ => readFlow? fuel cs
  | '\'' :: _ => readFlow? fuel cs
  | '[' :: _ => readFlow? fuel cs
  | '\x7b' :: _ => readFlow? fuel cs
  | _ => plainScalar? false least fuel cs

mutual

/-- A node that may be a block collection, inside of a collection whose column is one less than
`least`. -/
def readNode? (least : Nat) : Nat → Point → Option (Yaml × List Char)
  | 0, _ => none
  | fuel + 1, p =>
    if p.isDash then (readItems? p.column fuel p).map fun (items, left) => (.sequence items, left)
    else match simpleKey? p.rest with
      | some (key, rest) =>
        (readEntries? p.column fuel key rest).map fun (entries, left) => (.mapping entries, left)
      | none => readInline? least fuel p.rest

/-- The items of a block sequence in a column, from the dash of one. -/
def readItems? (column : Nat) : Nat → Point → Option (List Yaml × List Char)
  | 0, _ => none
  | fuel + 1, p => do
    let behind := p.rest.drop 1
    let (crossed, q) ← gap? false false false (column + 1) behind
    let (item, left) ←
      if q.isEnd || (crossed && !q.isInside column) then some (nothing, behind)
      else readNode? (column + 1) fuel q
    let (crossed, next) ← nextContent? left
    if next.isEnd then return ([item], left)
    else if !crossed then none
    else if next.column = column ∧ next.isDash then
      let (items, left) ← readItems? column fuel next
      return (item :: items, left)
    else if next.column ≤ column then return ([item], left)
    else none

/-- The entries of a block mapping in a column, from behind the first key. -/
def readEntries? (column : Nat) : Nat → Yaml → List Char → Option (List (Yaml × Yaml) × List Char)
  | 0, _, _ => none
  | fuel + 1, key, behind => do
    let (crossed, q) ← nextContent? behind
    let (value, left) ←
      if q.isEnd then some (nothing, behind)
      else if !crossed then readInline? (column + 1) fuel q.rest
      else if q.isInside column then readNode? (column + 1) fuel q
      else if q.column = column ∧ q.isDash then
        (readItems? column fuel q).map fun (items, left) => (.sequence items, left)
      else some (nothing, behind)
    let (crossed, next) ← nextContent? left
    if next.isEnd then return ([(key, value)], left)
    else if !crossed then none
    else if next.column = column then
      let (nextKey, rest) ← simpleKey? next.rest
      let (entries, left) ← readEntries? column fuel nextKey rest
      return ((key, value) :: entries, left)
    else if next.column < column then return ([(key, value)], left)
    else none

end

/-- Whether a character may stand in a document. -/
def isAllowed (c : Char) : Bool :=
  c == '\t' || c == '\n' || c == '\r' || (0x20 ≤ c.toNat && c.toNat ≤ 0x7e) || c.toNat == 0x85 ||
    (0xa0 ≤ c.toNat && c.toNat ≤ 0xfffd) || 0x10000 ≤ c.toNat

/-- A text in which `'\n'` stands for every other control character that ends lines. -/
def unifyLines : List Char → List Char
  | '\r' :: '\n' :: rest => '\n' :: unifyLines rest
  | '\r' :: rest => '\n' :: unifyLines rest
  | '\u0085' :: rest => '\n' :: unifyLines rest
  | c :: rest => c :: unifyLines rest
  | [] => []

/-- Whether nothing is left of a text behind a document but markers that end it. -/
def endsDocument : Nat → List Char → Bool
  | 0, _ => false
  | fuel + 1, left =>
    match nextContent? left with
    | some (_, ⟨_, []⟩) => true
    | some (crossed, ⟨0, '.' :: '.' :: '.' :: rest⟩) =>
      crossed && blankAhead rest && endsDocument fuel rest
    | _ => false

/-- The node of a document that begins at a point, if it is the only one. -/
def readDocument? (p : Point) : Option Yaml := do
  let (node, left) ← readNode? 0 (fuelFor p.rest) p
  if endsDocument (fuelFor left) left then return node else none

/-- The node of a document, from behind the marker that begins it. -/
def readMarked? (behind : List Char) : Option Yaml := do
  let (crossed, p) ← nextContent? behind
  if p.isEnd then
    if endsDocument (fuelFor behind) behind then return nothing else none
  else if crossed then readDocument? p
  else
    let (node, left) ← readInline? 0 (fuelFor p.rest) p.rest
    if endsDocument (fuelFor left) left then return node else none

/-- Where a text begins: a byte order mark takes up the first column. -/
def startPoint : List Char → Point
  | '\ufeff' :: rest => ⟨1, rest⟩
  | cs => ⟨0, cs⟩

/-- Reads a text that holds at most one document; gives nothing where it holds none. -/
def read? (text : String) : Option (Option Yaml) := do
  if !text.toList.all isAllowed then none
  let start := startPoint (unifyLines text.toList)
  let (_, p) ← gap? false true false start.column start.rest
  if p.rest.isEmpty then return none
  else if !p.isEnd then return some (← readDocument? p)
  else match p.rest with
    | '-' :: '-' :: '-' :: behind => return some (← readMarked? behind)
    | _ => none

end HookMigration.Yaml
