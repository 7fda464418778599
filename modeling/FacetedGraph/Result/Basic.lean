import FacetedGraph.Filter.Request
import FacetedGraph.Value.Text

/-!
# Results

What callers get to see of a graph: nodes and edges with their identities as text and their
properties beside them, and counts over both.

## Main definitions

* `NodeView.ofNode`, `EdgeView.ofRelationship`.
* `Summary.ofElements` — the counts.
* `Subgraph`, `Subgraph.node?`, `Subgraph.edge?`.
* `RankedNode`, `PathView`, `PathsResult`, `Reach`, `InfluenceResult`, `DetailResult` — the answers
  of the traversals.
-/

namespace FacetedGraph

structure NodeView where
  id : String
  labels : List String
  type : String
  properties : List (String × Value)

/-- The type of a node without labels. -/
def unknownType : String := "Unknown"

/-- The type of a node is its first label. -/
def NodeView.ofNode (n : Node) : NodeView where
  id := n.id.text
  labels := n.labels
  type := (Node.primaryLabel n).getD unknownType
  properties := n.properties

structure EdgeView where
  id : String
  source : String
  target : String
  type : String
  properties : List (String × Value)

def EdgeView.ofRelationship (r : Relationship) : EdgeView where
  id := r.id.text
  source := r.source.text
  target := r.target.text
  type := r.type
  properties := r.properties

/-! ## Counts -/

/-- The counts over a result and, where it answers a fetch, the filter and the page of it. -/
structure Summary where
  totalNodes : Nat := 0
  totalEdges : Nat := 0
  nodeTypeCounts : Fields Nat := []
  edgeTypeCounts : Fields Nat := []
  /-- Over ownership edges only. -/
  mandateStatusCounts : Fields Nat := []
  filter : Option Filter := none
  page : Option Page := none

/-- The type of the edges that carry a mandate. -/
def ownershipType : String := "OWNS"

/-- The text of the mandate status of an ownership edge. -/
def EdgeView.mandateStatus (e : EdgeView) : Option String :=
  if e.type = ownershipType then
    (Fields.get? e.properties "mandate_status").bind Value.queryString
  else none

/-- How often each text occurs. -/
def tallyAll (texts : List String) : Fields Nat :=
  texts.foldl (fun counts s => Fields.tally s counts) []

/-- The counts over nodes and edges. -/
def Summary.ofElements (nodes : List NodeView) (edges : List EdgeView) : Summary where
  totalNodes := nodes.length
  totalEdges := edges.length
  nodeTypeCounts := tallyAll (nodes.map (·.type))
  edgeTypeCounts := tallyAll (edges.map (·.type))
  mandateStatusCounts := tallyAll (edges.filterMap (·.mandateStatus))

/-! ## Answers -/

structure Subgraph where
  nodes : List NodeView := []
  edges : List EdgeView := []
  summary : Summary := {}

namespace Subgraph

def ofElements (nodes : List NodeView) (edges : List EdgeView) : Subgraph where
  nodes := nodes
  edges := edges
  summary := .ofElements nodes edges

def isEmpty (r : Subgraph) : Bool := r.nodes.isEmpty && r.edges.isEmpty

/-- The node of an identity. -/
def node? (r : Subgraph) (id : String) : Option NodeView := r.nodes.find? (·.id == id)

/-- The edge of an identity. -/
def edge? (r : Subgraph) (id : String) : Option EdgeView := r.edges.find? (·.id == id)

/-- The result with the filter and the page that it answers. -/
def answering (r : Subgraph) (filter : Filter) (page : Page) : Subgraph :=
  { r with summary := { r.summary with filter := some filter, page := some page } }

end Subgraph

structure RankedNode where
  node : NodeView
  score : Binary64

/-- A path by the identities along it. -/
structure PathView where
  nodes : List String
  relationships : List String
  weight : Binary64

namespace PathView

def length (p : PathView) : Nat := p.relationships.length

def isEmpty (p : PathView) : Bool := p.relationships.isEmpty

end PathView

structure PathsResult where
  paths : List PathView := []
  graph : Subgraph := {}

/-- The reach of a consultant. -/
structure Reach where
  companiesInfluenced : Nat := 0
  productsInfluenced : Nat := 0
  fieldConsultantsManaged : Nat := 0
  /-- Edges of the network with the consultant at an end. -/
  totalRelationships : Nat := 0
  deriving DecidableEq

structure InfluenceResult where
  graph : Subgraph := {}
  /-- By the identity of the consultant. -/
  reach : Fields Reach := []

structure DetailResult where
  node : NodeView
  relationships : List EdgeView
  connectedNodes : Nat

end FacetedGraph
