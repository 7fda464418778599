import FacetedGraph.Configuration.Path

/-!
# Settings

Settings are a tree of tables, lists and single values. They are put together by setting one value
after the other at a path; a table is merged into the table that is there, and everything else
takes the place of what was set before. Values are loosely typed: a number may come as a text, a
truth value or a fraction.

## Main definitions

* `Settings.put`, `Settings.merge` — sets a value under a name, merging tables.
* `Settings.assign` — sets a value at a path.
* `Settings.asNumber` — a value as a whole number.
-/

namespace FacetedGraph

/-- A tree of settings: a table is an object. -/
abbrev Settings := Json

namespace Settings

/-- The fields of a table; anything else has none. -/
def tableOf : Settings → Fields Settings
  | .object fields => fields
  | _ => []

/-- The items of a list; anything else has none. -/
def listOf : Settings → List Settings
  | .array items => items
  | _ => []

/-! ## Setting values -/

mutual

/-- Sets the value of a name in a table. -/
def put (name : String) : Settings → Fields Settings → Fields Settings
  | .object news, table => table.insert name (merge news ((table.get? name).getD (.object [])))
  | value, table => table.insert name value

/-- Sets fields in a setting. With a field to set, what is no table gives way to one. -/
def merge : List (String × Json) → Settings → Settings
  | [], target => target
  | (name, value) :: news, target =>
    merge news (.object (put (foldCase name) value (tableOf target)))

end

/-- Changes the item at an index. A list that is too short is filled up with nulls; an index from
the end has to be within the list. -/
def changeItem (change : Settings → Option Settings) (index : Int) (items : List Settings) :
    Option (List Settings) := do
  let index := if index < 0 then index + items.length else index
  if index < 0 then none
  let items := items ++ List.replicate (index.toNat + 1 - items.length) .null
  return items.set index.toNat (← change (items.getD index.toNat .null))

/-- Sets the value at a path. What stands in the way of the path gives way to a table or a list. -/
def assign (value : Settings) : Path → Settings → Option Settings
  | [], _ => some value
  | [.field name], target => some (.object (put name value (tableOf target)))
  | .field name :: path, target => do
    let table := tableOf target
    return .object (table.insert name (← assign value path ((table.get? name).getD .null)))
  | .item index :: path, target =>
    (changeItem (assign value path) index (listOf target)).map .array

/-! ## Conversion -/

/-- Words that stand for a number. -/
def wordValue (word : List Char) : Option Nat :=
  if ["true", "on", "yes"].any (·.toList == word) then some 1
  else if ["false", "off", "no"].any (·.toList == word) then some 0
  else none

/-- A setting as a whole number of 64 bits without a sign. A binary64 number, and a whole number
beyond the signed ones of 64 bits, is rounded to binary64 and brought into the range. -/
def asNumber : Settings → Option Nat
  | .int n =>
    if n < 0 then none
    else if Json.fitsInt64 n then some n.toNat
    else some (Binary64.roundTo 0 maxIdentity (.ofInt n)).toNat
  | .bool b => some b.toNat
  | .real x => some (x.roundTo 0 maxIdentity).toNat
  | .string s => (wordValue (s.toList.map lowerCase)).or (readIdentity s.toList)
  | _ => none

end Settings

end FacetedGraph
