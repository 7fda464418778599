import FacetedGraph.Proofs.Graph.Ranking

/-!
# Relisting

The properties of a node are a map, and it is by accident in which order they are listed. Rankings
look properties up and count them, so they do not depend on it.

## Main definitions

* `Node.Relists` — a node with the properties of another one, in an order of its own.
* `Graph.relisted` — a graph in which the properties of each node are listed anew.

## Main statements

* `Node.Relists.get?_eq` — properties are found wherever they are listed.
* `Graph.Built.ranking_relisted` — listing properties anew leaves every ranking as it was.
-/

namespace FacetedGraph

structure Node.Relists (relisted n : Node) : Prop where
  id : relisted.id = n.id
  labels : relisted.labels = n.labels
  properties : relisted.properties.Perm n.properties

namespace Node

/-- A node with its properties listed the other way round. -/
def backwards (n : Node) : Node := { n with properties := n.properties.reverse }

theorem relists_backwards (n : Node) : n.backwards.Relists n :=
  ⟨rfl, rfl, List.reverse_perm n.properties⟩

end Node

def Candidate.relisted (relist : Node → Node) (c : Candidate) : Candidate :=
  { c with node := relist c.node }

namespace Graph

def relisted (g : Graph) (relist : Node → Node) : Graph := { g with nodes := g.nodes.map relist }

end Graph

/-! ## Nodes -/

namespace Node.Relists

variable {m m' n n' : Node}

theorem get?_eq (h : m'.Relists m) (hm : Fields.Ascending m.properties) (key : String) :
    m'.get? key = m.get? key :=
  Fields.get?_of_perm h.properties hm.nodup_names key

theorem hasLabel_eq (h : m'.Relists m) : m'.hasLabel = m.hasLabel := by
  funext label
  rw [hasLabel, hasLabel, h.labels]

theorem primaryLabel_eq (h : m'.Relists m) : m'.primaryLabel = m.primaryLabel := by
  rw [primaryLabel, primaryLabel, h.labels]

/-- Compared properties are counted, in whatever order. -/
theorem sharedFraction_eq (hn : n'.Relists n) (hm : m'.Relists m)
    (hasc : Fields.Ascending m.properties) :
    Graph.sharedFraction n' m' = Graph.sharedFraction n m := by
  have hcompared : (Graph.comparedProperties n').Perm (Graph.comparedProperties n) :=
    hn.properties.filter _
  have hshared : Graph.sharedProperties n' m' = Graph.sharedProperties n m := by
    simp only [Graph.sharedProperties, hm.get?_eq hasc, hcompared.countP_eq]
  rw [Graph.sharedFraction, Graph.sharedFraction, hcompared.length_eq, hshared]

theorem isNovel_eq (h : m'.Relists m) (hasc : Fields.Ascending m.properties)
    (known : List Value) (key : String) :
    Graph.isNovel known key m' = Graph.isNovel known key m := by
  rw [Graph.isNovel, Graph.isNovel, h.get?_eq hasc]

end Node.Relists

/-! ## Graphs -/

namespace Graph

variable {g : Graph} {relist : Node → Node} {seed n : Node}

theorem node?_relisted (id : NodeId) :
    (g.relisted relist).node? id = (g.node? id).map relist := Array.getElem?_map

theorem nodeList_relisted : (g.relisted relist).nodeList = g.nodeList.map relist :=
  Array.toList_map

theorem filter_nodeList_relisted {p q : Node → Bool} (hpq : ∀ n, q (relist n) = p n) :
    (g.relisted relist).nodeList.filter q = (g.nodeList.filter p).map relist := by
  rw [nodeList_relisted, List.filter_map]
  exact congrArg (List.map relist) (List.filter_congr fun n _ => hpq n)

/-- Which nodes are next to which is a matter of relationships. -/
theorem neighbors_relisted : (g.relisted relist).neighbors = g.neighbors := rfl

section

variable (hrelist : ∀ n, (relist n).Relists n)

include hrelist

theorem known_relisted {nodes : List Node}
    (hnodes : ∀ n ∈ nodes, Fields.Ascending n.properties) (key : String) :
    known (nodes.map relist) key = known nodes key := by
  rw [known, known, List.filterMap_map]
  refine congrArg (List.flatMap Value.elements) (List.filterMap_congr fun n hn => ?_)
  exact (hrelist n).get?_eq (hnodes n hn) key

theorem novelty_relisted {nodes : List Node}
    (hnodes : ∀ n ∈ nodes, Fields.Ascending n.properties) (hn : Fields.Ascending n.properties) :
    novelty (nodes.map relist) (relist n) = novelty nodes n := by
  have hlabels : (nodes.map relist).filterMap Node.primaryLabel =
      nodes.filterMap Node.primaryLabel := by
    rw [List.filterMap_map]
    exact List.filterMap_congr fun m _ => (hrelist m).primaryLabel_eq
  simp only [novelty, hlabels, (hrelist n).primaryLabel_eq, known_relisted hrelist hnodes,
    (hrelist n).isNovel_eq hn]

theorem similarity_relisted (hn : Fields.Ascending n.properties) :
    (g.relisted relist).similarity (relist seed) (relist n) = g.similarity seed n := by
  rw [similarity, (hrelist seed).sharedFraction_eq (hrelist n) hn, (hrelist seed).id,
    (hrelist n).id]
  rfl

theorem Built.similar_relisted (h : g.Built) (seed : Node) :
    (g.relisted relist).similar (relist seed) =
      (g.similar seed).map (Candidate.relisted relist) := by
  have hothers (c : Node) : (decide ((relist c).id ≠ (relist seed).id) &&
      (relist c).labels.any (relist seed).hasLabel) =
        (decide (c.id ≠ seed.id) && c.labels.any seed.hasLabel) := by
    rw [(hrelist c).id, (hrelist c).labels, (hrelist seed).id, (hrelist seed).hasLabel_eq]
  rw [similar, similar, filter_nodeList_relisted hothers, List.map_map]
  have hnodes : ∀ n ∈ g.nodeList.filter fun c => c.id ≠ seed.id && c.labels.any seed.hasLabel,
      Fields.Ascending n.properties := fun n hn =>
    h.ascending_properties (mem_nodeList.1 (List.mem_of_mem_filter hn))
  generalize (g.nodeList.filter fun c => c.id ≠ seed.id && c.labels.any seed.hasLabel) = nodes
    at hnodes
  have hscored : nodes.map ((fun c => (⟨c, (g.relisted relist).similarity (relist seed) c⟩ :
      Candidate)) ∘ relist) =
        (nodes.map fun c => ⟨c, g.similarity seed c⟩).map (Candidate.relisted relist) := by
    rw [List.map_map]
    refine List.map_congr_left fun c hc => ?_
    rw [Function.comp_apply, similarity_relisted hrelist (hnodes c hc)]
    rfl
  rw [hscored, List.filter_map]
  rfl

theorem potentialConnections_relisted (seed : Node) :
    (g.relisted relist).potentialConnections (relist seed) =
      (g.potentialConnections seed).map (Candidate.relisted relist) := by
  simp only [potentialConnections, neighbors_relisted, (hrelist seed).id, List.map_filterMap,
    node?_relisted, Option.map_map]
  rfl

theorem Built.expansionOpportunities_relisted (h : g.Built) (seed : Node) :
    (g.relisted relist).expansionOpportunities (relist seed) =
      (g.expansionOpportunities seed).map (Candidate.relisted relist) := by
  have hneighbors : (g.neighbors seed.id).filterMap (g.relisted relist).node? =
      ((g.neighbors seed.id).filterMap g.node?).map relist := by
    rw [List.map_filterMap]
    exact List.filterMap_congr fun id _ => node?_relisted id
  have hnodes : ∀ n ∈ (g.neighbors seed.id).filterMap g.node?,
      Fields.Ascending n.properties := fun n hn =>
    h.ascending_properties (h.sound.mem_filterMap_neighbors.1 hn).1
  have hothers : ((g.relisted relist).nodeList.filter fun c => c.id ≠ (relist seed).id) =
      (g.nodeList.filter fun c => c.id ≠ seed.id).map relist :=
    filter_nodeList_relisted fun c => by rw [(hrelist c).id, (hrelist seed).id]
  simp only [expansionOpportunities, neighbors_relisted, hothers]
  rw [(hrelist seed).id, hneighbors]
  generalize (g.neighbors seed.id).filterMap g.node? = nodes at hnodes
  rw [List.filterMap_map, List.map_filterMap]
  refine List.filterMap_congr fun c hc => ?_
  have hasc : Fields.Ascending c.properties :=
    h.ascending_properties (mem_nodeList.1 (List.mem_of_mem_filter hc))
  rw [Function.comp_apply, novelty_relisted hrelist hnodes hasc, Option.map_map]
  rfl

theorem Built.candidates_relisted (h : g.Built) (seed : Node) (recommender : Recommender) :
    (g.relisted relist).candidates (relist seed) recommender =
      (g.candidates seed recommender).map (Candidate.relisted relist) := by
  cases recommender with
  | similarEntities => exact h.similar_relisted hrelist seed
  | potentialConnections => exact potentialConnections_relisted hrelist seed
  | expansionOpportunities => exact h.expansionOpportunities_relisted hrelist seed

theorem Built.ranking_relisted (h : g.Built) (seed : NodeId) (recommender : Recommender) :
    (g.relisted relist).ranking seed recommender =
      (g.ranking seed recommender).map (Candidate.relisted relist) := by
  have hranks (a b : Candidate) :
      ranksBefore a b = ranksBefore (a.relisted relist) (b.relisted relist) := by
    rw [ranksBefore, ranksBefore, Candidate.relisted, Candidate.relisted, (hrelist a.node).id,
      (hrelist b.node).id]
  rw [ranking, ranking, node?_relisted]
  cases g.node? seed with
  | none => rfl
  | some n =>
    simp only [Option.map_some, Option.getD_some, h.candidates_relisted hrelist]
    exact (List.map_mergeSort fun a _ b _ => hranks a b).symm

end

end Graph

end FacetedGraph
