import FacetedGraph.Binary64.Decimal
import FacetedGraph.Fields
import FacetedGraph.Identity

/-!
# Values

A value is what a property or a cell of a row holds. Properties are loosely typed: one key may
hold a scalar on one node and a list on the next. Rows also hold nodes, relationships and paths,
whose properties are values again.

## Main definitions

* `Value`, with `Node`, `Relationship` and `Path` over it.
* `Value.asInt`, `Value.asFloat`, `Value.toFloat` — numeric readings.
* `Value.elements` — the value as a list.
-/

namespace FacetedGraph

/-- A node whose properties are `V`s. The labels are in the order of the store. -/
structure NodeOf (V : Type) where
  id : NodeId
  labels : List String
  properties : List (String × V)

/-- A directed relationship whose properties are `V`s. -/
structure RelationshipOf (V : Type) where
  id : RelationshipId
  source : NodeId
  target : NodeId
  type : String
  properties : List (String × V)

/-- A path alternates nodes and relationships, beginning and ending with a node. -/
structure PathOf (V : Type) where
  nodes : List (NodeOf V)
  relationships : List (RelationshipOf V)

inductive Value
  | null
  | bool (b : Bool)
  | int (n : Int64)
  | float (x : Binary64)
  | string (s : String)
  | list (items : List Value)
  | map (entries : List (String × Value))
  | node (n : NodeOf Value)
  | relationship (r : RelationshipOf Value)
  | path (p : PathOf Value)

instance : Inhabited Value := ⟨.null⟩

abbrev Properties := Fields Value

abbrev Node := NodeOf Value

abbrev Relationship := RelationshipOf Value

abbrev Path := PathOf Value

namespace Node

def hasLabel (n : Node) (label : String) : Bool := n.labels.contains label

/-- The first label as the store reports them. -/
def primaryLabel (n : Node) : Option String := n.labels.head?

def get? (n : Node) (key : String) : Option Value := Fields.get? n.properties key

end Node

namespace Relationship

def get? (r : Relationship) (key : String) : Option Value := Fields.get? r.properties key

/-- Whether a node is one of the two ends. -/
def touches (r : Relationship) (id : NodeId) : Bool := id == r.source || id == r.target

/-- The other end, seen from one end. Seen from elsewhere there is none. -/
def otherEnd (r : Relationship) (id : NodeId) : Option NodeId :=
  if id = r.source then some r.target
  else if id = r.target then some r.source
  else none

theorem isSome_otherEnd (r : Relationship) (id : NodeId) :
    (r.otherEnd id).isSome = r.touches id := by
  unfold otherEnd touches
  by_cases hs : id = r.source
  · simp [hs]
  · by_cases ht : id = r.target <;> simp_all

theorem otherEnd_cases {r : Relationship} {id other : NodeId} (h : r.otherEnd id = some other) :
    id = r.source ∧ other = r.target ∨ id = r.target ∧ other = r.source := by
  unfold otherEnd at h
  grind

/-- Each end is the other one of the other. -/
theorem otherEnd_symm {r : Relationship} {id other : NodeId} (h : r.otherEnd id = some other) :
    r.otherEnd other = some id := by
  unfold otherEnd at h ⊢
  grind

end Relationship

/-- The length of a path counts relationships. -/
def Path.length (p : Path) : Nat := p.relationships.length

namespace Value

def ofStrings (items : List String) : Value := list (items.map string)

def ofNodes (items : List Node) : Value := list (items.map node)

def ofRelationships (items : List Relationship) : Value := list (items.map relationship)

/-- The name of the value's type. -/
def typeName : Value → String
  | null => "NULL"
  | bool _ => "BOOLEAN"
  | int _ => "INTEGER"
  | float _ => "FLOAT"
  | string _ => "STRING"
  | list _ => "LIST"
  | map _ => "MAP"
  | node _ => "NODE"
  | relationship _ => "RELATIONSHIP"
  | path _ => "PATH"

def isNull : Value → Bool
  | null => true
  | _ => false

def isList : Value → Bool
  | list _ => true
  | _ => false

/-- An integer, or a whole float brought into the range of integers. -/
def asInt : Value → Option Int64
  | int n => some n
  | float x =>
    if x.isWhole then some (Int64.ofInt (x.truncate Int64.minValue.toInt Int64.maxValue.toInt))
    else none
  | _ => none

/-- A float, or the float nearest to an integer. -/
def asFloat : Value → Option Binary64
  | float x => some x
  | int n => some (.ofInt n.toInt)
  | _ => none

def asString : Value → Option String
  | string s => some s
  | _ => none

/-- A number as a float; a text by what it spells, blanks around it aside. -/
def toFloat : Value → Option Binary64
  | string s => Binary64.read (trimBlank s.toList)
  | v => v.asFloat

/-- The value as a list: a list as it is, nothing for null, else the value alone. -/
def elements : Value → List Value
  | list items => items
  | null => []
  | v => [v]

end Value

end FacetedGraph
