import FacetedGraph.Graph.Fetch
import FacetedGraph.Proofs.Distinct
import FacetedGraph.Proofs.Fallible
import FacetedGraph.Result.Rows

/-!
# Results of rows about nodes

## Main statements

* `nodes_ofRows`, `edges_ofRows` — rows about nodes amount to these nodes with what belongs to
  them, each once.
* `nodes_ofRows_ascending` — nothing is there twice where the nodes ascend.
* `Read.list_ofNodes`, `Read.list_ofRelationships` — lists of a row read back.
-/

namespace FacetedGraph

namespace Value

theorem nodesWithinAll_eq (items : List Value) :
    nodesWithinAll items = items.flatMap nodesWithin := by
  induction items with
  | nil => rfl
  | cons v rest ih => rw [nodesWithinAll, ih, List.flatMap_cons]

theorem relationshipsWithinAll_eq (items : List Value) :
    relationshipsWithinAll items = items.flatMap relationshipsWithin := by
  induction items with
  | nil => rfl
  | cons v rest ih => rw [relationshipsWithinAll, ih, List.flatMap_cons]

@[simp] theorem nodesWithin_ofNodes (items : List Node) : (ofNodes items).nodesWithin = items := by
  simp [ofNodes, nodesWithin, nodesWithinAll_eq, List.flatMap_map]

@[simp] theorem nodesWithin_ofRelationships (items : List Relationship) :
    (ofRelationships items).nodesWithin = [] := by
  simp [ofRelationships, nodesWithin, nodesWithinAll_eq]

@[simp] theorem relationshipsWithin_ofNodes (items : List Node) :
    (ofNodes items).relationshipsWithin = [] := by
  simp [ofNodes, relationshipsWithin, relationshipsWithinAll_eq]

@[simp] theorem relationshipsWithin_ofRelationships (items : List Relationship) :
    (ofRelationships items).relationshipsWithin = items := by
  simp [ofRelationships, relationshipsWithin, relationshipsWithinAll_eq, List.flatMap_map]

end Value

/-! ## Lists read back -/

namespace Read

theorem list_ofNodes (nodes : List Node) : Read.list Read.node (.ofNodes nodes) = .ok nodes :=
  mapM_map_eq_pure fun _ _ => rfl

theorem list_ofRelationships (relationships : List Relationship) :
    Read.list Read.relationship (.ofRelationships relationships) = .ok relationships :=
  mapM_map_eq_pure fun _ _ => rfl

end Read

/-! ## Rows about nodes -/

section NodeRows

variable {α : Type} (items : List α) (node : α → Node) (relationships : α → List Relationship)
  (connected : α → List Node)

theorem nodesWithin_nodeRows :
    (cells (items.map fun a => nodeRow (node a) (relationships a) (connected a))).flatMap
      Value.nodesWithin = items.flatMap fun a => node a :: connected a := by
  simp [cells, List.flatMap_assoc, List.flatMap_map, Row.values, nodeRow, Value.nodesWithin]

theorem relationshipsWithin_nodeRows :
    (cells (items.map fun a => nodeRow (node a) (relationships a) (connected a))).flatMap
      Value.relationshipsWithin = items.flatMap relationships := by
  simp [cells, List.flatMap_assoc, List.flatMap_map, Row.values, nodeRow,
    Value.relationshipsWithin]

theorem nodes_ofRows :
    (Subgraph.ofRows (items.map fun a =>
      nodeRow (node a) (relationships a) (connected a))).nodes =
      (firstBy NodeOf.id (items.flatMap fun a => node a :: connected a)).map NodeView.ofNode := by
  rw [Subgraph.ofRows, nodesWithin_nodeRows]
  rfl

theorem edges_ofRows :
    (Subgraph.ofRows (items.map fun a =>
      nodeRow (node a) (relationships a) (connected a))).edges =
      (firstBy RelationshipOf.id (items.flatMap relationships)).map EdgeView.ofRelationship := by
  rw [Subgraph.ofRows, relationshipsWithin_nodeRows]
  rfl

end NodeRows

/-- Rows about ascending nodes, without others beside them, amount to these nodes. -/
theorem nodes_ofRows_ascending {items : List Node}
    (h : Ascends (fun n : Node => n.id.number) items) (relationships : Node → List Relationship) :
    (Subgraph.ofRows (items.map fun n => nodeRow n (relationships n) [])).nodes =
      items.map NodeView.ofNode := by
  have hnumbers : ((items.map NodeOf.id).map NodeId.number).Nodup := by
    rw [List.map_map]
    exact h.nodup_map
  have hnodup : (items.map NodeOf.id).Nodup := .of_map NodeId.number hnumbers
  rw [nodes_ofRows, List.flatMap_singleton', firstBy_eq_self hnodup]

end FacetedGraph
