import FacetedGraph.Graph.Match
import FacetedGraph.Query.Pattern
import FacetedGraph.Row

/-!
# Recommendations

Candidates for a seed, each with a positive score, the best first.

## Main definitions

* `Graph.similar` — by shared properties and common neighbours.
* `Graph.potentialConnections` — by the neighbours between seed and candidate.
* `Graph.expansionOpportunities` — by what is new to the surroundings of the seed.
* `Graph.recommend` — the ranked rows.
-/

namespace FacetedGraph

/-- A node with its score. -/
structure Candidate where
  node : Node
  score : Magnitude

namespace Graph

/-! ## Similar entities -/

/-- The properties of the seed that take part: those that hold no list. -/
def comparedProperties (seed : Node) : Properties :=
  seed.properties.filter fun p => !p.2.isList

/-- How many of the seed's compared properties a candidate shares. -/
def sharedProperties (seed candidate : Node) : Nat :=
  (comparedProperties seed).countP fun p => (candidate.get? p.1).any (·.equivalent p.2)

/-- How many nodes are neighbours of both. -/
def commonNeighbors (g : Graph) (seed candidate : NodeId) : Nat :=
  let around := g.neighbors seed
  (g.neighbors candidate).countP fun id => id ≠ seed && around.contains id

/-- The share of common properties, nothing where none are compared. -/
def sharedFraction (seed candidate : Node) : Magnitude :=
  match (comparedProperties seed).length with
  | 0 => .zero
  | count => .ofFraction (sharedProperties seed candidate) count

def similarity (g : Graph) (seed candidate : Node) : Magnitude :=
  sharedFraction seed candidate + .ofNat (g.commonNeighbors seed.id candidate.id)

/-- The other nodes with a label of the seed that have something in common with it. -/
def similar (g : Graph) (seed : Node) : List Candidate :=
  ((g.nodeList.filter fun c => c.id ≠ seed.id && c.labels.any seed.hasLabel).map fun c =>
    ⟨c, g.similarity seed c⟩).filter fun c => Magnitude.zero < c.score

/-! ## Potential connections -/

/-- The nodes next to a neighbour of the seed that are not next to the seed, each scored by how
many neighbours lead to it. -/
def potentialConnections (g : Graph) (seed : Node) : List Candidate :=
  let direct := g.neighbors seed.id
  let found := (direct.flatMap g.neighbors).filter fun id => id ≠ seed.id && !direct.contains id
  (ascendingBy NodeId.number found).filterMap fun id =>
    (g.node? id).map fun n =>
      ⟨n, .ofNat (direct.countP fun mid => (g.neighbors mid).contains id)⟩

/-! ## Expansion opportunities -/

/-- What the nodes hold under a key, lists taken apart. -/
def known (nodes : List Node) (key : String) : List Value :=
  (nodes.filterMap (·.get? key)).flatMap Value.elements

/-- Whether a node holds something under a key and none of it is known. -/
def isNovel (known : List Value) (key : String) (n : Node) : Bool :=
  let held := ((n.get? key).map Value.elements).getD []
  !held.isEmpty && held.all fun v => !v.isIn known

/-- Three for a label that no neighbour has, two for a region and one for a channel. -/
def novelty (neighbors : List Node) (n : Node) : Option Nat :=
  if n.primaryLabel.any fun l => !(neighbors.filterMap Node.primaryLabel).contains l then some 3
  else if isNovel (known neighbors "region") "region" n then some 2
  else if isNovel (known neighbors "channel") "channel" n then some 1
  else none

/-- The other nodes that would be new to the surroundings of the seed. -/
def expansionOpportunities (g : Graph) (seed : Node) : List Candidate :=
  let neighbors := (g.neighbors seed.id).filterMap g.node?
  (g.nodeList.filter fun c => c.id ≠ seed.id).filterMap fun c =>
    (novelty neighbors c).map fun score => ⟨c, .ofNat score⟩

/-! ## Ranking -/

def candidates (g : Graph) (seed : Node) : Recommender → List Candidate
  | .similarEntities => g.similar seed
  | .potentialConnections => g.potentialConnections seed
  | .expansionOpportunities => g.expansionOpportunities seed

/-- By descending score, and of one score by identity. -/
def ranksBefore (a b : Candidate) : Bool :=
  b.score < a.score || (b.score == a.score && a.node.id.number ≤ b.node.id.number)

def candidateRow (c : Candidate) : Row where
  columns := [("node", .node c.node), ("score", .float (.ofMagnitude c.score))]

/-- The best candidates for a seed. A seed that is not there has none. -/
def recommend (g : Graph) (seed : NodeId) (recommender : Recommender) (limit : Nat) : List Row :=
  match g.node? seed with
  | none => []
  | some n => (((g.candidates n recommender).mergeSort ranksBefore).take limit).map candidateRow

end Graph

end FacetedGraph
