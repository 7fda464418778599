import FacetedGraph.Distinct
import FacetedGraph.Result.Basic
import FacetedGraph.Row

/-!
# Results from rows

Rows carry nodes and relationships in any column, alone, in lists and in paths. The result that
they amount to has each of them once, in the order of first occurrence. Maps are not looked into.

## Main definitions

* `Value.nodesWithin`, `Value.relationshipsWithin` — the graph elements of a value, in order.
* `Subgraph.ofRows` — the result that rows amount to.
* `RankedNode.ofRows` — rows of candidates.
-/

namespace FacetedGraph

namespace Value

mutual

/-- The nodes that a value holds, in order. -/
def nodesWithin : Value → List Node
  | node n => [n]
  | path p => p.nodes
  | list items => nodesWithinAll items
  | _ => []
termination_by structural v => v

def nodesWithinAll : List Value → List Node
  | [] => []
  | v :: vs => v.nodesWithin ++ nodesWithinAll vs
termination_by structural v => v

end

mutual

/-- The relationships that a value holds, in order. -/
def relationshipsWithin : Value → List Relationship
  | relationship r => [r]
  | path p => p.relationships
  | list items => relationshipsWithinAll items
  | _ => []
termination_by structural v => v

def relationshipsWithinAll : List Value → List Relationship
  | [] => []
  | v :: vs => v.relationshipsWithin ++ relationshipsWithinAll vs
termination_by structural v => v

end

end Value

/-- The values of rows, row by row and column by column. -/
def cells (rows : List Row) : List Value := rows.flatMap Row.values

/-- The result that rows amount to. -/
def Subgraph.ofRows (rows : List Row) : Subgraph :=
  .ofElements
    ((firstBy NodeOf.id ((cells rows).flatMap Value.nodesWithin)).map NodeView.ofNode)
    ((firstBy RelationshipOf.id ((cells rows).flatMap Value.relationshipsWithin)).map
      EdgeView.ofRelationship)

/-- The candidate of a row. -/
def RankedNode.ofRow (row : Row) : Except Error RankedNode := do
  let node ← row.read "node" Read.node
  let score ← row.read "score" Read.float
  return { node := .ofNode node, score }

/-- The candidates of rows, in the order of the rows. -/
def RankedNode.ofRows (rows : List Row) : Except Error (List RankedNode) :=
  rows.mapM RankedNode.ofRow

end FacetedGraph
