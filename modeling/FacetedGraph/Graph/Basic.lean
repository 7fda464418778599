import FacetedGraph.Distinct
import FacetedGraph.Error
import FacetedGraph.Value.Basic

/-!
# Property graphs

A graph numbers its nodes and its relationships from zero in the order of their creation, and it
counts on from the numbers that it has given. For each node it keeps the relationships that touch
it, in the same order and a loop once.

## Main definitions

* `Graph`, `Graph.empty`, `Graph.createNode`, `Graph.createRelationship`.
* `Graph.node?`, `Graph.relationship?`.
* `Graph.incident` — the relationships that touch a node.
* `Graph.steps` — these with the node at the other end.
* `Graph.neighbors` — the other nodes at their ends.
-/

namespace FacetedGraph

structure Graph where
  nodes : Array Node
  relationships : Array Relationship
  /-- For each node the relationships that touch it. -/
  incidence : Array (List RelationshipId)
  /-- The number that the next node gets. -/
  nextNode : Nat
  /-- The number that the next relationship gets. -/
  nextRelationship : Nat

namespace Graph

def empty : Graph := ⟨#[], #[], #[], 0, 0⟩

def node? (g : Graph) (id : NodeId) : Option Node := g.nodes[id.number]?

def relationship? (g : Graph) (id : RelationshipId) : Option Relationship :=
  g.relationships[id.number]?

/-- The nodes in ascending order of identities. -/
def nodeList (g : Graph) : List Node := g.nodes.toList

/-! ## Growth -/

/-- Adds a node. -/
def createNode (g : Graph) (labels : List String) (properties : List (String × Value)) :
    Graph × NodeId :=
  let id : NodeId := ⟨g.nextNode⟩
  ({ g with
      nodes := g.nodes.push { id, labels, properties := Fields.ofList properties }
      incidence := g.incidence.push []
      nextNode := g.nextNode + 1 }, id)

/-- Notes that a relationship touches a node. -/
def attach (incidence : Array (List RelationshipId)) (node : NodeId) (id : RelationshipId) :
    Array (List RelationshipId) :=
  incidence.modify node.number (· ++ [id])

/-- Adds a relationship between two nodes, which have to be there. -/
def createRelationship (g : Graph) (source target : NodeId) (type : String)
    (properties : List (String × Value)) : Except Error (Graph × RelationshipId) :=
  if (g.node? source).isNone then .error (.notFound (.sourceNode source))
  else if (g.node? target).isNone then .error (.notFound (.targetNode target))
  else
    let id : RelationshipId := ⟨g.nextRelationship⟩
    let attached := attach g.incidence source id
    .ok ({ g with
        relationships := g.relationships.push
          { id, source, target, type, properties := Fields.ofList properties }
        incidence := if source = target then attached else attach attached target id
        nextRelationship := g.nextRelationship + 1 }, id)

/-! ## Surroundings of a node -/

/-- The relationships that touch a node, in the order of their creation. -/
def incident (g : Graph) (id : NodeId) : List Relationship :=
  (g.incidence[id.number]?.getD []).filterMap g.relationship?

/-- The relationships that touch a node, each with the node at the other end. -/
def steps (g : Graph) (id : NodeId) : List (Relationship × NodeId) :=
  (g.incident id).filterMap fun r => (r.otherEnd id).map (r, ·)

/-- The other nodes at the ends of these relationships, each once. -/
def neighbors (g : Graph) (id : NodeId) : List NodeId :=
  distinct (((g.steps id).map Prod.snd).filter (· ≠ id))

/-- The node at the other end of each of these relationships. -/
def farNodes (g : Graph) (id : NodeId) (relationships : List Relationship) : List Node :=
  relationships.filterMap fun r => (r.otherEnd id).bind g.node?

end Graph

/-- The first occurrence of each node. -/
def distinctNodes (items : List Node) : List Node := firstBy NodeOf.id items

/-- The first occurrence of each relationship. -/
def distinctRelationships (items : List Relationship) : List Relationship :=
  firstBy RelationshipOf.id items

end FacetedGraph
