import FacetedGraph.Json.Basic
import FacetedGraph.Text.Numeral

/-!
# Reading values from JSON trees

A decoder takes a tree and gives a value or refuses. Objects are read field by field; a field may
go under several names, of which an object may carry one, and names that nobody asks for are
passed over.

## Main definitions

* `Json.asString`, `Json.asNat`, `Json.asInt64`, `Json.asReal`, `Json.asList`, `Json.asFields`.
* `Json.nullable` — `null` stands for absence.
* `Json.lookup`, `Json.required`, `Json.withDefault` — the fields of an object.
-/

namespace FacetedGraph.Json

variable {α : Type}

def asString : Json → Option String
  | string s => some s
  | _ => none

/-- A whole number that fits in 64 bits without a sign. -/
def asNat : Json → Option Nat
  | int n => if 0 ≤ n ∧ n ≤ maxIdentity then some n.toNat else none
  | _ => none

/-- Whether a whole number fits in 64 bits with a sign. -/
def fitsInt64 (n : Int) : Bool := -0x8000000000000000 ≤ n && n < 0x8000000000000000

/-- A whole number that fits in 64 bits with a sign. -/
def asInt64 : Json → Option Int64
  | int n => if fitsInt64 n then some (Int64.ofInt n) else none
  | _ => none

/-- A number of either sort. -/
def asReal : Json → Option Binary64
  | int n => some (.ofInt n)
  | real x => some x
  | _ => none

def asList (f : Json → Option α) : Json → Option (List α)
  | array items => items.mapM f
  | _ => none

def asObject : Json → Option (Fields Json)
  | object fields => some fields
  | _ => none

/-- The value of every field of an object. -/
def asFields (f : Json → Option α) : Json → Option (Fields α)
  | object fields => fields.mapM fun p => (f p.2).map (p.1, ·)
  | _ => none

/-- One of the listed names. -/
def asName (names : List (String × α)) (j : Json) : Option α :=
  j.asString.bind fun s => (names.find? fun p => p.1 == s).map Prod.snd

/-- `null` stands for absence. -/
def nullable (f : Json → Option α) : Json → Option (Option α)
  | null => some none
  | j => (f j).map some

/-! ## Fields of an object -/

/-- The field under one of its names, if the object has it; refuses an object with two of them. -/
def lookup (fields : Fields Json) (names : List String) : Option (Option Json) :=
  match names.filterMap (Fields.get? fields) with
  | [] => some none
  | [j] => some (some j)
  | _ => none

/-- A field that has to be there. -/
def required (fields : Fields Json) (names : List String) (f : Json → Option α) : Option α :=
  (lookup fields names).bind fun found => found.bind f

/-- A field that may be missing. -/
def withDefault (fields : Fields Json) (names : List String) (absent : α)
    (f : Json → Option α) : Option α :=
  (lookup fields names).bind fun
    | none => some absent
    | some j => f j

end FacetedGraph.Json
