import FacetedGraph.Binary64.Decimal
import FacetedGraph.Json.Decode

/-!
# Paths to settings

Settings are nested: a table holds them by name and a list by index. A key spells the path to a
setting, such as `store.kind` or `hosts[0].name`. Case makes no difference in names.

## Main definitions

* `Settings.Step`, `Settings.Path`.
* `Settings.pathOf` — the path that a key spells.
* `Settings.foldCase` — the form of a name in which case makes no difference.
-/

namespace FacetedGraph.Settings

/-- A step into nested settings. -/
inductive Step
  | field (name : String)
  /-- Below zero, the index counts from the end of the list. -/
  | item (index : Int)
  deriving DecidableEq

abbrev Path := List Step

/-! ## Case -/

/-- The lower-case form of a character, as far as it is in ASCII: beside the capital letters of
ASCII only the sign for kelvin has such a form. -/
def lowerCase (c : Char) : Char := if c = '\u212a' then 'k' else Decimal.lowerCase c

def foldCase (name : String) : String := String.ofList (name.toList.map lowerCase)

/-! ## Keys -/

/-- Cuts a text at every separator. -/
def cutAt (separator : Char) : List Char → List (List Char)
  | [] => [[]]
  | c :: cs =>
    if c = separator then [] :: cutAt separator cs
    else match cutAt separator cs with
      | [] => [[c]]
      | part :: parts => (c :: part) :: parts

def isNameChar (c : Char) : Bool :=
  ('a' ≤ c && c ≤ 'z') || ('A' ≤ c && c ≤ 'Z') || isDigit c || c == '_' || c == '-' || c == ' '

/-- Reads a sign and digits as a whole number of 64 bits. -/
def readInteger (cs : List Char) : Option Int :=
  let (negative, digits) := Decimal.takeSign cs
  ((readNumeral digits).map fun n => if negative then -(n : Int) else n).filter Json.fitsInt64

/-- A text without the blanks around it. -/
def trim (cs : List Char) : List Char :=
  let isBlank (c : Char) : Bool := c == ' ' || c == '\t'
  ((cs.dropWhile isBlank).reverse.dropWhile isBlank).reverse

/-- Reads an index without its closing bracket. It has no plus sign. -/
def readItem : List Char → Option Step
  | '[' :: cs =>
    let index := trim cs
    if index.head? = some '+' then none else (readInteger index).map .item
  | _ => none

/-- Reads indices, each in brackets. -/
def readItems (cs : List Char) : Option Path :=
  let pieces := cutAt ']' cs
  if pieces.getLast? = some [] then pieces.dropLast.mapM readItem else none

/-- Reads a name and the indices after it. -/
def readSteps (cs : List Char) : Option Path :=
  let name := cs.takeWhile isNameChar
  if name.isEmpty then none
  else (readItems (cs.dropWhile isNameChar)).map (.field (String.ofList name) :: ·)

/-- The path that a key spells, in any case: names, with points between them and indices after them.
A key that spells none is a name by itself. -/
def pathOf (key : String) : Path :=
  let key := foldCase key
  match (cutAt '.' key.toList).mapM readSteps with
  | some parts => parts.flatten
  | none => [.field key]

end FacetedGraph.Settings
