import FacetedGraph.Graph.Fetch

/-!
# Bounded expansion

Every seed reaches out hop by hop, and a node is reached once, over the first relationship that
leads to it. What the seeds reach is put together and cut into pages by identity.

## Main definitions

* `Graph.reach` — what is reached from a frontier, in the order of reaching.
* `Graph.expand` — the rows of an expansion.
-/

namespace FacetedGraph

namespace Graph

/-- What is reached within `depth` hops from the frontier, beyond what is visited: each node with
the relationship that led to it. -/
def reach (g : Graph) : (depth : Nat) → (visited frontier : List NodeId) →
    List (Relationship × NodeId)
  | 0, _, _ => []
  | depth + 1, visited, frontier =>
    let fresh := freshBy Prod.snd visited (frontier.flatMap g.steps)
    fresh ++ g.reach depth (visited ++ fresh.map Prod.snd) (fresh.map Prod.snd)

/-- What a seed reaches. -/
def reachFrom (g : Graph) (depth : Nat) (seed : NodeId) : List (Relationship × NodeId) :=
  g.reach depth [seed] [seed]

/-- The seeds that the graph has. -/
def presentSeeds (g : Graph) (seeds : List NodeId) : List NodeId :=
  seeds.filter fun s => (g.node? s).isSome

/-- The nodes that the seeds reach, themselves included, in ascending order of identities. -/
def reached (g : Graph) (seeds : List NodeId) (depth : Nat) : List NodeId :=
  ascendingBy NodeId.number
    ((g.presentSeeds seeds).flatMap fun s => s :: (g.reachFrom depth s).map Prod.snd)

/-- The relationships over which nodes were reached, in ascending order of identities. -/
def tree (g : Graph) (seeds : List NodeId) (depth : Nat) : List Relationship :=
  ascendingBy (fun r => r.id.number)
    ((g.presentSeeds seeds).flatMap fun s => (g.reachFrom depth s).map Prod.fst)

/-- The nodes reached that are on the page, each with the relationships of the tree that start at
it. -/
def expand (g : Graph) (seeds : List NodeId) (depth : Nat) (page : Page) : List Row :=
  let tree := g.tree seeds depth
  ((page.window (g.reached seeds depth)).filterMap g.node?).map fun n =>
    nodeRow n (tree.filter (·.source == n.id)) []

end Graph

end FacetedGraph
