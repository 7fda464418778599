import FacetedGraph.Proofs.Counting
import FacetedGraph.Proofs.Graph.Incidence
import FacetedGraph.Proofs.Identity
import FacetedGraph.Proofs.Result.Rows

/-!
# Elements of rows

What the result of rows has, told row by row.

## Main definitions

* `Row.nodes`, `Row.relationships` — the graph elements in the columns of a row.
* `Row.StoredIn` — all of them belong to a graph.

## Main statements

* `NodeView.ofNode_injective`, `EdgeView.ofRelationship_injective` — views tell elements apart.
* `Subgraph.mem_ids_ofRows` — the identities that the result of rows has.
* `Subgraph.exists_of_mem_edges` — its edges come from the rows.
* `Graph.Sound.mem_nodes_ofRows`, `Graph.Sound.mem_edges_ofRows` — no element of a sound graph gets
  lost on the way to the result.
* `Graph.Sound.countP_nodes_ofRows`, `Graph.Sound.countP_edges_ofRows` — the result counts each
  element of the rows once.
-/

namespace FacetedGraph

namespace Row

def nodes (row : Row) : List Node := row.values.flatMap Value.nodesWithin

def relationships (row : Row) : List Relationship := row.values.flatMap Value.relationshipsWithin

variable (n : Node) (rs : List Relationship) (ms : List Node)

@[simp] theorem nodes_nodeRow : (nodeRow n rs ms).nodes = n :: ms := by
  simp [nodes, nodeRow, values, Value.nodesWithin]

@[simp] theorem relationships_nodeRow : (nodeRow n rs ms).relationships = rs := by
  simp [relationships, nodeRow, values, Value.relationshipsWithin]

structure StoredIn (g : Graph) (row : Row) : Prop where
  nodes : ∀ n ∈ row.nodes, n ∈ g.nodes
  relationships : ∀ r ∈ row.relationships, r ∈ g.relationships

end Row

/-! ## Views -/

theorem NodeView.ofNode_injective : Function.Injective NodeView.ofNode := by
  rintro ⟨id, labels, properties⟩ ⟨id', labels', properties'⟩ heq
  simp only [ofNode, NodeView.mk.injEq] at heq
  obtain ⟨hid, rfl, -, rfl⟩ := heq
  rw [NodeId.text_injective hid]

theorem EdgeView.ofRelationship_injective : Function.Injective EdgeView.ofRelationship := by
  rintro ⟨id, source, target, type, properties⟩ ⟨id', source', target', type', properties'⟩ heq
  simp only [ofRelationship, EdgeView.mk.injEq] at heq
  obtain ⟨hid, hsource, htarget, rfl, rfl⟩ := heq
  rw [RelationshipId.text_injective hid, NodeId.text_injective hsource,
    NodeId.text_injective htarget]

/-! ## Results of rows -/

namespace Subgraph

variable {rows : List Row}

theorem nodes_ofRows_distinct (rows : List Row) :
    (ofRows rows).nodes = (distinctNodes (rows.flatMap Row.nodes)).map NodeView.ofNode :=
  congrArg (fun items => (distinctNodes items).map NodeView.ofNode) List.flatMap_assoc

theorem edges_ofRows_distinct (rows : List Row) :
    (ofRows rows).edges =
      (distinctRelationships (rows.flatMap Row.relationships)).map EdgeView.ofRelationship :=
  congrArg (fun items => (distinctRelationships items).map EdgeView.ofRelationship)
    List.flatMap_assoc

/-- First occurrences keep every identity. -/
theorem mem_ids_ofRows {id : NodeId} :
    id.text ∈ (ofRows rows).nodes.map NodeView.id ↔
      ∃ row ∈ rows, id ∈ row.nodes.map NodeOf.id := by
  have hids (nodes : List Node) :
      (nodes.map NodeView.ofNode).map NodeView.id = (nodes.map NodeOf.id).map NodeId.text := by
    rw [List.map_map, List.map_map]
    rfl
  rw [nodes_ofRows_distinct, hids,
    List.mem_map_of_injective fun _ _ => NodeId.text_injective, distinctNodes, mem_map_firstBy,
    List.map_flatMap, List.mem_flatMap]

theorem exists_of_mem_edges {edge : EdgeView} (h : edge ∈ (ofRows rows).edges) :
    ∃ row ∈ rows, ∃ r ∈ row.relationships, EdgeView.ofRelationship r = edge := by
  rw [edges_ofRows_distinct] at h
  obtain ⟨r, hr, rfl⟩ := List.mem_map.1 h
  obtain ⟨row, hrow, hr⟩ := List.mem_flatMap.1 ((freshBy_sublist []).subset hr)
  exact ⟨row, hrow, r, hr, rfl⟩

end Subgraph

namespace Graph.Sound

variable {g : Graph} (h : g.Sound) {rows : List Row} (hrows : ∀ row ∈ rows, row.StoredIn g)

include h hrows

theorem mem_distinctNodes_ofRows {n : Node} :
    n ∈ distinctNodes (rows.flatMap Row.nodes) ↔ ∃ row ∈ rows, n ∈ row.nodes := by
  have hstored : ∀ n ∈ rows.flatMap Row.nodes, n ∈ g.nodes := by
    intro n hn
    obtain ⟨row, hrow, hn⟩ := List.mem_flatMap.1 hn
    exact (hrows row hrow).nodes n hn
  rw [h.mem_distinctNodes hstored, List.mem_flatMap]

theorem mem_distinctRelationships_ofRows {r : Relationship} :
    r ∈ distinctRelationships (rows.flatMap Row.relationships) ↔
      ∃ row ∈ rows, r ∈ row.relationships := by
  have hstored : ∀ r ∈ rows.flatMap Row.relationships, r ∈ g.relationships := by
    intro r hr
    obtain ⟨row, hrow, hr⟩ := List.mem_flatMap.1 hr
    exact (hrows row hrow).relationships r hr
  rw [h.mem_distinctRelationships hstored, List.mem_flatMap]

theorem mem_nodes_ofRows {view : NodeView} :
    view ∈ (Subgraph.ofRows rows).nodes ↔
      ∃ row ∈ rows, ∃ n ∈ row.nodes, NodeView.ofNode n = view := by
  simp only [Subgraph.nodes_ofRows_distinct, List.mem_map, h.mem_distinctNodes_ofRows hrows]
  grind

theorem mem_edges_ofRows {view : EdgeView} :
    view ∈ (Subgraph.ofRows rows).edges ↔
      ∃ row ∈ rows, ∃ r ∈ row.relationships, EdgeView.ofRelationship r = view := by
  simp only [Subgraph.edges_ofRows_distinct, List.mem_map,
    h.mem_distinctRelationships_ofRows hrows]
  grind

/-! ## Counts over results -/

theorem countP_nodes_ofRows (p : NodeView → Bool) :
    (Subgraph.ofRows rows).nodes.countP p =
      {n : Node | (∃ row ∈ rows, n ∈ row.nodes) ∧ p (.ofNode n)}.ncard := by
  have hnodup : (distinctNodes (rows.flatMap Row.nodes)).Nodup :=
    .of_map NodeOf.id (nodup_map_firstBy _ _)
  rw [Subgraph.nodes_ofRows_distinct, List.countP_map, List.countP_eq_length_filter]
  refine (ncard_eq_length (hnodup.filter _) fun n => ?_).symm
  rw [List.mem_filter, h.mem_distinctNodes_ofRows hrows]
  rfl

theorem countP_edges_ofRows (p : EdgeView → Bool) :
    (Subgraph.ofRows rows).edges.countP p =
      {r : Relationship | (∃ row ∈ rows, r ∈ row.relationships) ∧ p (.ofRelationship r)}.ncard := by
  have hnodup : (distinctRelationships (rows.flatMap Row.relationships)).Nodup :=
    .of_map RelationshipOf.id (nodup_map_firstBy _ _)
  rw [Subgraph.edges_ofRows_distinct, List.countP_map, List.countP_eq_length_filter]
  refine (ncard_eq_length (hnodup.filter _) fun r => ?_).symm
  rw [List.mem_filter, h.mem_distinctRelationships_ofRows hrows]
  rfl

end Graph.Sound

end FacetedGraph
