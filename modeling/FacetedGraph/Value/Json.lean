import FacetedGraph.Json.Decode
import FacetedGraph.Value.Basic

/-!
# Values as JSON

A value is written without a mark of its type: maps and graph elements are objects, and a number
that is not finite is null. Read back, an object is always a map and a number is an integer when
it is a whole one of 64 bits.

## Main definitions

* `Value.toJson`, `Value.ofJson`.
* `Node.ofJson`, `Relationship.ofJson` — objects read as graph elements.
-/

namespace FacetedGraph

namespace Value

mutual

def toJson : Value → Json
  | null => .null
  | bool b => .bool b
  | int n => .int n.toInt
  | float x => .ofReal x
  | string s => .string s
  | list items => .array (toJsonItems items)
  | map entries => .object (toJsonFields entries)
  | node n => toJsonNode n
  | relationship r => toJsonRelationship r
  | path p => toJsonPath p
termination_by structural v => v

def toJsonItems : List Value → List Json
  | [] => []
  | v :: vs => v.toJson :: toJsonItems vs
termination_by structural v => v

def toJsonFields : List (String × Value) → List (String × Json)
  | [] => []
  | (k, v) :: rest => (k, v.toJson) :: toJsonFields rest
termination_by structural v => v

def toJsonNode : NodeOf Value → Json
  | ⟨id, labels, properties⟩ =>
    .record [("id", .ofNat id.number), ("labels", .strings labels),
      ("properties", .object (toJsonFields properties))]
termination_by structural v => v

def toJsonRelationship : RelationshipOf Value → Json
  | ⟨id, source, target, type, properties⟩ =>
    .record [("id", .ofNat id.number), ("src", .ofNat source.number),
      ("dst", .ofNat target.number), ("rel_type", .string type),
      ("properties", .object (toJsonFields properties))]
termination_by structural v => v

def toJsonNodes : List (NodeOf Value) → List Json
  | [] => []
  | n :: ns => toJsonNode n :: toJsonNodes ns
termination_by structural v => v

def toJsonRelationships : List (RelationshipOf Value) → List Json
  | [] => []
  | r :: rs => toJsonRelationship r :: toJsonRelationships rs
termination_by structural v => v

def toJsonPath : PathOf Value → Json
  | ⟨nodes, relationships⟩ =>
    .record [("nodes", .array (toJsonNodes nodes)),
      ("relationships", .array (toJsonRelationships relationships))]
termination_by structural v => v

end

mutual

/-- Every tree is the JSON of some value. -/
def ofJson : Json → Value
  | .null => null
  | .bool b => bool b
  | .int n => if Json.fitsInt64 n then int (Int64.ofInt n) else float (.ofInt n)
  | .real x => float x
  | .string s => string s
  | .array items => list (ofJsonItems items)
  | .object fields => map (ofJsonFields fields)
termination_by structural j => j

def ofJsonItems : List Json → List Value
  | [] => []
  | j :: js => ofJson j :: ofJsonItems js
termination_by structural j => j

def ofJsonFields : List (String × Json) → List (String × Value)
  | [] => []
  | (k, j) :: rest => (k, ofJson j) :: ofJsonFields rest
termination_by structural j => j

end

end Value

def Properties.ofJson (j : Json) : Option Properties :=
  j.asFields fun v => some (Value.ofJson v)

def Node.ofJson (j : Json) : Option Node := do
  let fields ← j.asObject
  return {
    id := ⟨← Json.required fields ["id"] Json.asNat⟩
    labels := ← Json.required fields ["labels"] (Json.asList Json.asString)
    properties := ← Json.required fields ["properties"] Properties.ofJson }

def Relationship.ofJson (j : Json) : Option Relationship := do
  let fields ← j.asObject
  return {
    id := ⟨← Json.required fields ["id"] Json.asNat⟩
    source := ⟨← Json.required fields ["src"] Json.asNat⟩
    target := ⟨← Json.required fields ["dst"] Json.asNat⟩
    type := ← Json.required fields ["rel_type"] Json.asString
    properties := ← Json.required fields ["properties"] Properties.ofJson }

end FacetedGraph
