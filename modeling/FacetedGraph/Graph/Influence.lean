import FacetedGraph.Graph.Match
import FacetedGraph.Row

/-!
# Influence networks

A consultant employs field consultants, who cover companies and products, which own products;
and a consultant rates products. All of it is followed from source to target.

## Main definitions

* `Graph.outgoing` — the relationships of a type that lead from a node to one of some labels.
* `Graph.influence` — one row for each consultant.
-/

namespace FacetedGraph

/-- A relationship with the node that it leads to. -/
abbrev Link := Relationship × Node

namespace Graph

/-- The relationships of a type that lead from a node to one with any of the labels. -/
def outgoing (g : Graph) (id : NodeId) (type : String) (labels : List String) : List Link :=
  (((g.incident id).filter fun r => r.source == id && r.type == type).filterMap fun r =>
    (g.node? r.target).map (r, ·)).filter fun l => labels.any l.2.hasLabel

/-- The field consultants that a consultant employs. -/
def employed (g : Graph) (id : NodeId) : List Link :=
  g.outgoing id "EMPLOYS" ["FIELD_CONSULTANT"]

/-- What they cover. -/
def covered (g : Graph) (id : NodeId) : List Link :=
  (g.employed id).flatMap fun l => g.outgoing l.2.id "COVERS" ["COMPANY", "PRODUCT"]

/-- What that owns. -/
def owned (g : Graph) (id : NodeId) : List Link :=
  (g.covered id).flatMap fun l => g.outgoing l.2.id "OWNS" ["PRODUCT"]

/-- What the consultant rates. -/
def rated (g : Graph) (id : NodeId) : List Link := g.outgoing id "RATES" ["PRODUCT"]

/-- The parts of the network of a consultant, one after the other. -/
def networkParts (g : Graph) (id : NodeId) : List (List Link) :=
  [g.employed id, g.covered id, g.owned id, g.rated id]

/-- The row of a consultant. Each part of the network lists its own once. -/
def influenceRow (g : Graph) (c : Node) : Row where
  columns := [("consultant", .node c),
    ("connected_nodes", .ofNodes ((g.networkParts c.id).flatMap fun part =>
      distinctNodes (part.map Prod.snd))),
    ("relationships", .ofRelationships ((g.networkParts c.id).flatMap fun part =>
      distinctRelationships (part.map Prod.fst)))]

/-- One row for each of the listed nodes that is a consultant, in ascending order. -/
def influence (g : Graph) (listed : List NodeId) : List Row :=
  (((ascendingBy NodeId.number listed).filterMap g.node?).filter (·.hasLabel "CONSULTANT")).map
    g.influenceRow

end Graph

end FacetedGraph
