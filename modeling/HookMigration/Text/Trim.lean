import HookMigration.Text.Classes

/-!
# Trimming and splitting

Texts are cut as lists of characters; the functions on strings wrap those on lists.
-/

namespace HookMigration.Text

/-- The text without its leading blanks. -/
def trimStart (cs : List Char) : List Char :=
  cs.dropWhile isBlank

/-- The text without its trailing blanks. -/
def trimEnd (cs : List Char) : List Char :=
  (cs.reverse.dropWhile isBlank).reverse

/-- The text without its leading and trailing blanks. -/
def trim (cs : List Char) : List Char :=
  trimEnd (trimStart cs)

/-- `trim` on strings. -/
def trimmed (s : String) : String :=
  String.ofList (trim s.toList)

/-- Whether a text has no character but blanks. -/
def isBlankText (cs : List Char) : Bool :=
  cs.all isBlank

/-- The pieces of a text between the occurrences of a character: always at least one. -/
def splitAt (separator : Char) : List Char → List (List Char)
  | [] => [[]]
  | c :: rest =>
    if c = separator then [] :: splitAt separator rest
    else match splitAt separator rest with
      | [] => [[c]]
      | piece :: pieces => (c :: piece) :: pieces

/-- The pieces of a string between the occurrences of a character. -/
def pieces (separator : Char) (s : String) : List String :=
  (splitAt separator s.toList).map String.ofList

/-- The concatenation of strings with a separator between neighbours. -/
def joinWith (separator : String) (ss : List String) : String :=
  String.ofList (separator.toList.intercalate (ss.map String.toList))

/-- The concatenation of strings. -/
def concat (ss : List String) : String :=
  String.ofList (ss.flatMap String.toList)

/-- Every occurrence of a character replaced by a text. -/
def replaceChar (c : Char) (text : List Char) (cs : List Char) : List Char :=
  cs.flatMap fun d => if d = c then text else [d]

/-- ASCII capitals become small letters; every other character stays. -/
def lowerAscii (s : String) : String :=
  String.ofList (s.toList.map Char.toLower)

end HookMigration.Text
