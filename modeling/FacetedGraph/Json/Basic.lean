import FacetedGraph.Binary64.Basic
import FacetedGraph.Fields

/-!
# JSON trees

A JSON tree keeps whole numbers apart from binary64 ones, since a field that takes the former
refuses the latter. The fields of an object are in ascending order of names.

## Main definitions

* `Json` — the trees.
* `Json.ofReal` — the leaf for a binary64 number; what is not finite has no JSON number and is
  written `null`.
* `Json.record` — an object given field by field.
-/

namespace FacetedGraph

inductive Json
  | null
  | bool (b : Bool)
  | int (n : Int)
  | real (x : Binary64)
  | string (s : String)
  | array (items : List Json)
  | object (fields : List (String × Json))

instance : Inhabited Json := ⟨.null⟩

namespace Json

/-- The leaf for a binary64 number; what is not finite is written `null`. -/
def ofReal (x : Binary64) : Json := if x.isFinite then real x else null

def ofNat (n : Nat) : Json := int n

def ofOption {α : Type} (f : α → Json) : Option α → Json
  | none => null
  | some a => f a

def ofList {α : Type} (f : α → Json) (items : List α) : Json := array (items.map f)

def strings (items : List String) : Json := ofList string items

/-- An object given field by field; of two fields with one name the last wins. -/
def record (fields : List (String × Json)) : Json := object (Fields.ofList fields)

/-- An object with a field for each entry of a collection. -/
def ofFields {α : Type} (f : α → Json) (fields : Fields α) : Json :=
  object (fields.map fun p => (p.1, f p.2))

end Json

end FacetedGraph
