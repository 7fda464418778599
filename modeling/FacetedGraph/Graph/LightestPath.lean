import FacetedGraph.Graph.Match
import FacetedGraph.Row

/-!
# Lightest paths

A relationship costs what its property `weight` says, at least nothing, and one where it says
nothing. It can be walked both ways. The search keeps for every node found the least cost known
and the step that led there, and takes the open entries in the order of cost and identity. An
entry that a cheaper one has overtaken is passed over.

## Main definitions

* `Relationship.cost`.
* `Search`, `Search.next`, `Search.run` — the state of a search and its course.
* `Graph.lightestPath` — a lightest path between two nodes.
* `Graph.searchPaths` — the lightest paths between sources and targets, in ascending order.
-/

namespace FacetedGraph

/-- What it costs to walk a relationship. -/
def Relationship.cost (r : Relationship) : Magnitude :=
  match (r.get? "weight").bind Value.toFloat with
  | some x => x.toCost
  | none => .one

/-- The least cost known of a node, and the last step of a walk of that cost. The source has no
last step. -/
structure Arrival where
  cost : Magnitude
  step : Option (NodeId × RelationshipId)

/-- An open entry: a node and the cost at which it was reached. -/
structure Entry where
  cost : Magnitude
  node : NodeId
  deriving DecidableEq

/-- By cost, and of one cost by identity. -/
def Entry.before (a b : Entry) : Bool :=
  a.cost < b.cost || (a.cost == b.cost && a.node.number < b.node.number)

/-- Puts an entry at its place in an ascending list. -/
def Entry.enqueue (e : Entry) : List Entry → List Entry
  | [] => [e]
  | f :: rest => if e.before f then e :: f :: rest else f :: e.enqueue rest

structure Search where
  arrivals : List (NodeId × Arrival)
  queue : List Entry

namespace Search

def start (source : NodeId) : Search where
  arrivals := [(source, ⟨.zero, none⟩)]
  queue := [⟨.zero, source⟩]

def arrival? (s : Search) (id : NodeId) : Option Arrival := s.arrivals.lookup id

/-- Whether a cost improves on what is known of a node. -/
def improves (s : Search) (cost : Magnitude) (id : NodeId) : Bool :=
  match s.arrival? id with
  | some a => cost < a.cost
  | none => true

/-- Tries a relationship from the node of an entry. -/
def relax (e : Entry) (s : Search) (step : Relationship × NodeId) : Search :=
  let cost := e.cost + step.1.cost
  if s.improves cost step.2 then
    { arrivals := (step.2, ⟨cost, some (e.node, step.1.id)⟩) :: s.arrivals
      queue := Entry.enqueue ⟨cost, step.2⟩ s.queue }
  else s

/-- Whether a cheaper entry of the same node was taken before. -/
def isOvertaken (s : Search) (e : Entry) : Bool :=
  match s.arrival? e.node with
  | some a => a.cost < e.cost
  | none => false

/-- Takes the first open entry. The search is over when there is none, or when it is the target. -/
def next (g : Graph) (target : NodeId) (s : Search) : Option Search :=
  match s.queue with
  | [] => none
  | e :: rest =>
    if e.node = target then none
    else
      let s := { s with queue := rest }
      if s.isOvertaken e then some s else some ((g.steps e.node).foldl (relax e) s)

/-- Goes on for as many steps as there is fuel. -/
def run (g : Graph) (target : NodeId) : Nat → Search → Search
  | 0, s => s
  | fuel + 1, s =>
    match s.next g target with
    | none => s
    | some s => run g target fuel s

/-- The steps of the walk to a node, last one first. -/
def stepsTo (s : Search) (source : NodeId) : Nat → NodeId → Option (List (NodeId × RelationshipId))
  | 0, _ => none
  | fuel + 1, id =>
    if id = source then some []
    else do
      let step ← (← s.arrival? id).step
      return step :: (← s.stepsTo source fuel step.1)

end Search

/-- A path with its cost. -/
structure WeightedPath where
  nodes : List Node
  relationships : List Relationship
  weight : Magnitude

namespace Graph

/-- How many entries a search can open: one for the source and one for each end of a
relationship. -/
def searchBound (g : Graph) : Nat :=
  g.incidence.toList.foldl (fun n touching => n + touching.length) 1

/-- The search from a source, at its end. -/
def search (g : Graph) (source target : NodeId) : Search :=
  Search.run g target (g.searchBound + 1) (.start source)

/-- A lightest path between two nodes. -/
def lightestPath (g : Graph) (source target : NodeId) : Option WeightedPath := do
  let found := g.search source target
  let arrival ← found.arrival? target
  let steps := (← found.stepsTo source (g.nodes.size + 1) target).reverse
  return {
    nodes := (← (steps.map Prod.fst).mapM g.node?) ++ [← g.node? target]
    relationships := ← (steps.map Prod.snd).mapM g.relationship?
    weight := arrival.cost }

/-- By weight, and of one weight by length. -/
def lighter (a b : WeightedPath) : Bool :=
  a.weight < b.weight ||
    (a.weight == b.weight && a.relationships.length ≤ b.relationships.length)

def pathRow (p : WeightedPath) : Row where
  columns := [("path_nodes", .ofNodes p.nodes),
    ("path_relationships", .ofRelationships p.relationships),
    ("weight", .float (.ofMagnitude p.weight))]

/-- The lightest paths of at most `maxDepth` relationships from each source to each target. -/
def lightestPaths (g : Graph) (sources targets : List NodeId) (maxDepth : Nat) :
    List WeightedPath :=
  (distinct sources).flatMap fun s =>
    (distinct targets).filterMap fun t =>
      if s = t ∨ (g.node? s).isNone ∨ (g.node? t).isNone then none
      else (g.lightestPath s t).filter fun p => p.relationships.length ≤ maxDepth

/-- The rows of a path search, in ascending order of weight and length. -/
def searchPaths (g : Graph) (sources targets : List NodeId) (maxDepth : Nat) : List Row :=
  ((g.lightestPaths sources targets maxDepth).mergeSort lighter).map pathRow

end Graph

end FacetedGraph
