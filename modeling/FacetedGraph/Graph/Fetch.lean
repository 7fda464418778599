import FacetedGraph.Filter.Request
import FacetedGraph.Graph.Match
import FacetedGraph.Row

/-!
# Filtered fetch

One row for each subject on the page, with the relationships and nodes around it.

## Main definitions

* `Graph.fetch` — subjects by the predicates over nodes, with their neighbourhood.
* `Graph.fetchRelational` — subjects that also have a matching relationship, with those of it.
* `Graph.detail` — a single node with all that touches it.
-/

namespace FacetedGraph

/-- A row for a node, with relationships and nodes that belong to it. -/
def nodeRow (n : Node) (relationships : List Relationship) (connected : List Node) : Row where
  columns := [("n", .node n), ("relationships", .ofRelationships relationships),
    ("connected_nodes", .ofNodes connected)]

namespace Graph

/-- The relationships within the neighbourhood of a node. Each hop lists its own once. -/
def relationshipsAround (g : Graph) (id : NodeId) : Neighborhood → List Relationship
  | .subject => []
  | .oneHop => distinctRelationships (g.incident id)
  | .twoHop =>
    distinctRelationships (g.incident id) ++
    distinctRelationships (((g.steps id).map Prod.snd).flatMap g.incident)

/-- The nodes within the neighbourhood of a node. Each hop lists its own once. -/
def nodesAround (g : Graph) (id : NodeId) : Neighborhood → List Node
  | .subject => []
  | .oneHop => distinctNodes (g.farNodes id (g.incident id))
  | .twoHop =>
    distinctNodes (g.farNodes id (g.incident id)) ++
    distinctNodes (((g.steps id).map Prod.snd).flatMap fun m => g.farNodes m (g.incident m))

/-- The subjects on the page with their neighbourhood. -/
def fetch (g : Graph) (c : Conditions) (neighborhood : Neighborhood) (page : Page) :
    Except Error (List Row) := do
  let subjects ← g.subjects c
  return (page.window subjects).map fun n =>
    nodeRow n (g.relationshipsAround n.id neighborhood) (g.nodesAround n.id neighborhood)

/-- The relationships that touch a node and satisfy the predicates over relationships. -/
def matching (g : Graph) (c : Conditions) (id : NodeId) : Except Error (List Relationship) :=
  (g.incident id).filterM c.matchesRelationship

/-- The subjects with a matching relationship that are on the page. -/
def fetchRelational (g : Graph) (c : Conditions) (page : Page) : Except Error (List Row) := do
  let subjects ← g.subjects c
  let found ← subjects.mapM fun n => return (n, ← g.matching c n.id)
  let grouped := found.filter fun p => !p.2.isEmpty
  return (page.window grouped).map fun (n, relationships) =>
    nodeRow n (distinctRelationships relationships)
      (distinctNodes (g.farNodes n.id relationships))

/-- A node with the relationships that touch it, and for each of them the node at the other end. -/
def detail (g : Graph) (id : NodeId) : List Row :=
  match g.node? id with
  | none => []
  | some n => [nodeRow n (g.incident id) (g.farNodes id (g.incident id))]

end Graph

end FacetedGraph
