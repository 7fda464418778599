import FacetedGraph.Proofs.Binary64.Order
import FacetedGraph.Proofs.Fields
import FacetedGraph.Proofs.Graph.Neighbors

/-!
# Candidates

What makes a node a candidate for a seed, and what it scores, told by the graph alone: which keys
hold equivalent values, which nodes are next to which, and what the neighbours of the seed hold.

## Main definitions

* `Node.comparedKeys`, `Node.sharedKeys` — the keys that similarity goes by.
* `Graph.affinity` — how similar two nodes are.
* `Node.held` — what a node holds under a key.
* `Graph.IsNeighbor` — what is next to a seed.
* `Graph.Novel` — what is new about a node to the neighbours of a seed, and what that is worth.
* `Graph.Qualifies` — what makes a candidate of each kind.

## Main statements

* `Graph.similarity_eq` — the similarity that is computed.
* `Graph.Sound.novelty_eq_some` — the novelty that is computed.
* `Graph.Built.mem_candidates` — the candidates are just what qualifies.
* `Graph.Sound.ascends_candidates` — they ascend, so no node is listed twice.
-/

namespace FacetedGraph

/-! ## Scores -/

namespace Magnitude

/-- So many out of so many, and nothing out of none. -/
def share (part whole : Nat) : Magnitude := if whole = 0 then zero else ofFraction part whole

end Magnitude

/-! ## Shared properties -/

namespace Node

/-- The keys under which a node holds something other than a list. -/
def comparedKeys (n : Node) : Set String :=
  {key | ∃ v, n.get? key = some v ∧ v.isList = false}

/-- Those of them under which another node holds something equivalent. -/
def sharedKeys (n m : Node) : Set String :=
  {key | ∃ v, n.get? key = some v ∧ v.isList = false ∧
    ∃ w, m.get? key = some w ∧ w.equivalent v = true}

/-- What a node holds under a key, a list taken apart. -/
def held (n : Node) (key : String) : List Value := ((n.get? key).map Value.elements).getD []

end Node

/-- Fields that pass a test are counted by their names. -/
theorem Fields.ncard_names_filter {α : Type} {fields : Fields α} (h : fields.Ascending)
    (test : String × α → Bool) :
    {name | ∃ value, fields.get? name = some value ∧ test (name, value) = true}.ncard =
      (fields.filter test).length := by
  have hnodup : ((fields.filter test).map Prod.fst).Nodup :=
    h.nodup_names.sublist (List.filter_sublist.map _)
  rw [← List.length_map Prod.fst]
  refine ncard_eq_length hnodup fun name => ?_
  simp [Fields.get?_eq_some_iff h]

namespace Graph

variable {g : Graph} {seed m n : Node} {c : Candidate} {points : Nat} {key : String}

theorem length_comparedProperties (hn : Fields.Ascending n.properties) :
    (comparedProperties n).length = n.comparedKeys.ncard := by
  rw [comparedProperties, ← Fields.ncard_names_filter hn]
  simp [Node.comparedKeys, Node.get?]

theorem sharedProperties_eq (hn : Fields.Ascending n.properties) :
    sharedProperties n m = (n.sharedKeys m).ncard := by
  rw [sharedProperties, List.countP_eq_length_filter, comparedProperties, List.filter_filter,
    ← Fields.ncard_names_filter hn]
  refine congrArg Set.ncard (Set.ext fun key => exists_congr fun v => ?_)
  simp only [Bool.and_eq_true, Option.any_eq_true, Bool.not_eq_true', Node.get?]
  tauto

theorem sharedFraction_eq (hn : Fields.Ascending n.properties) :
    sharedFraction n m = .share (n.sharedKeys m).ncard n.comparedKeys.ncard := by
  rw [sharedFraction, length_comparedProperties hn, sharedProperties_eq hn, Magnitude.share]
  split
  case h_1 hzero => rw [if_pos hzero]
  case h_2 hsome => rw [if_neg hsome]

/-- The share of compared properties that two nodes have in common, and the nodes next to both,
themselves aside. -/
noncomputable def affinity (g : Graph) (n m : Node) : Magnitude :=
  .share (n.sharedKeys m).ncard n.comparedKeys.ncard +
    .ofNat (g.intermediaries n.id m.id \ {n.id, m.id}).ncard

theorem similarity_eq (h : g.Sound) (hn : Fields.Ascending n.properties) :
    g.similarity n m = g.affinity n m := by
  rw [similarity, sharedFraction_eq hn, h.commonNeighbors_eq]
  rfl

/-! ## Novelty -/

/-- A relationship leads from a node to another one. -/
def IsNeighbor (g : Graph) (u : NodeId) (m : Node) : Prop :=
  m ∈ g.nodes ∧ m.id ≠ u ∧ g.Adjacent u m.id

/-- The first label of a node is the first label of no neighbour. -/
def NewLabel (g : Graph) (u : NodeId) (n : Node) : Prop :=
  ∃ label, n.primaryLabel = some label ∧ ∀ m, g.IsNeighbor u m → m.primaryLabel ≠ some label

/-- A node holds something under a key, and none of it is equivalent to anything that a neighbour
holds there. -/
def NewUnder (g : Graph) (key : String) (u : NodeId) (n : Node) : Prop :=
  n.held key ≠ [] ∧ ∀ v ∈ n.held key, ∀ m, g.IsNeighbor u m → ∀ w ∈ m.held key,
    v.equivalent w = false

/-- What is new about a node to the neighbours of another one, by what that is worth. A new label
counts before a new region, and a new region before a new channel. -/
inductive Novel (g : Graph) (u : NodeId) (n : Node) : Nat → Prop
  | label : g.NewLabel u n → g.Novel u n 3
  | region : ¬ g.NewLabel u n → g.NewUnder "region" u n → g.Novel u n 2
  | channel : ¬ g.NewLabel u n → ¬ g.NewUnder "region" u n → g.NewUnder "channel" u n →
      g.Novel u n 1

theorem Novel.pos {u : NodeId} (h : g.Novel u n points) : 0 < points := by
  cases h <;> decide

theorem mem_known {nodes : List Node} {v : Value} :
    v ∈ known nodes key ↔ ∃ m ∈ nodes, v ∈ m.held key := by
  simp only [known, List.mem_flatMap, List.mem_filterMap, Node.held]
  constructor
  · rintro ⟨w, ⟨m, hm, hw⟩, hv⟩
    exact ⟨m, hm, by simpa [hw] using hv⟩
  · rintro ⟨m, hm, hv⟩
    cases hw : m.get? key with
    | none => simp [hw] at hv
    | some w => exact ⟨w, ⟨m, hm, hw⟩, by simpa [hw] using hv⟩

namespace Sound

variable (h : g.Sound)

include h

theorem mem_filterMap_neighbors {u : NodeId} :
    m ∈ (g.neighbors u).filterMap g.node? ↔ g.IsNeighbor u m := by
  simp only [List.mem_filterMap, h.mem_neighbors, h.node?_eq_some]
  constructor
  · rintro ⟨_, hnear, hm, rfl⟩
    exact ⟨hm, hnear⟩
  · rintro ⟨hm, hnear⟩
    exact ⟨m.id, hnear, hm, rfl⟩

theorem isNovel_iff {u : NodeId} :
    isNovel (known ((g.neighbors u).filterMap g.node?) key) key n = true ↔ g.NewUnder key u n := by
  have hheld : isNovel (known ((g.neighbors u).filterMap g.node?) key) key n =
      (!(n.held key).isEmpty && (n.held key).all fun v =>
        !v.isIn (known ((g.neighbors u).filterMap g.node?) key)) := rfl
  rw [hheld, NewUnder]
  simp only [Bool.and_eq_true, Bool.not_eq_true', List.isEmpty_eq_false_iff, List.all_eq_true,
    Value.isIn, List.any_eq_false, mem_known, h.mem_filterMap_neighbors]
  grind

theorem newLabel_iff {u : NodeId} :
    (n.primaryLabel.any fun label =>
      !(((g.neighbors u).filterMap g.node?).filterMap Node.primaryLabel).contains label) = true ↔
      g.NewLabel u n := by
  simp only [Option.any_eq_true, NewLabel, Bool.not_eq_true', List.contains_eq_mem,
    decide_eq_false_iff_not, List.mem_filterMap, h.mem_filterMap_neighbors]
  grind

theorem novelty_eq_some {u : NodeId} :
    novelty ((g.neighbors u).filterMap g.node?) n = some points ↔ g.Novel u n points := by
  rw [novelty]
  constructor
  · intro hsome
    split at hsome
    case isTrue hlabel =>
      cases hsome
      exact .label (h.newLabel_iff.1 hlabel)
    case isFalse hlabel =>
      have hlabel := mt h.newLabel_iff.2 hlabel
      split at hsome
      case isTrue hregion =>
        cases hsome
        exact .region hlabel (h.isNovel_iff.1 hregion)
      case isFalse hregion =>
        have hregion := mt h.isNovel_iff.2 hregion
        split at hsome
        case isTrue hchannel =>
          cases hsome
          exact .channel hlabel hregion (h.isNovel_iff.1 hchannel)
        case isFalse => cases hsome
  · intro hnovel
    cases hnovel with
    | label hlabel => rw [if_pos (h.newLabel_iff.2 hlabel)]
    | region hlabel hregion =>
      rw [if_neg (mt h.newLabel_iff.1 hlabel), if_pos (h.isNovel_iff.2 hregion)]
    | channel hlabel hregion hchannel =>
      rw [if_neg (mt h.newLabel_iff.1 hlabel), if_neg (mt h.isNovel_iff.1 hregion),
        if_pos (h.isNovel_iff.2 hchannel)]

end Sound

/-! ## Candidates of each kind -/

/-- What makes a candidate for a seed. Similar is another node with a label of the seed that has
something in common with it. A connection is two hops away and scores its intermediaries. An
opportunity is another node that is new to the neighbours of the seed. -/
def Qualifies (g : Graph) (seed : Node) : Recommender → Candidate → Prop
  | .similarEntities, c =>
    c.node ∈ g.nodes ∧ c.node.id ≠ seed.id ∧ (∃ label ∈ c.node.labels, label ∈ seed.labels) ∧
      c.score = g.affinity seed c.node ∧ Magnitude.zero < c.score
  | .potentialConnections, c =>
    c.node ∈ g.nodes ∧ g.AtDistance 2 seed.id c.node.id ∧
      c.score = .ofNat (g.intermediaries seed.id c.node.id).ncard
  | .expansionOpportunities, c =>
    c.node ∈ g.nodes ∧ c.node.id ≠ seed.id ∧
      ∃ points, g.Novel seed.id c.node points ∧ c.score = .ofNat points

theorem Qualifies.ne {recommender : Recommender} (h : g.Qualifies seed recommender c) :
    c.node.id ≠ seed.id := by
  cases recommender with
  | similarEntities => exact h.2.1
  | potentialConnections => exact (atDistance_two.1 h.2.1).1
  | expansionOpportunities => exact h.2.1

theorem Sound.pos_of_qualifies (h : g.Sound) {recommender : Recommender}
    (hc : g.Qualifies seed recommender c) : Magnitude.zero < c.score := by
  cases recommender with
  | similarEntities => exact hc.2.2.2.2
  | potentialConnections =>
    obtain ⟨-, hfar, hscore⟩ := hc
    rw [hscore]
    exact Magnitude.ofNat_pos
      ((Set.ncard_pos h.finite_intermediaries).2 (intermediaries_nonempty hfar))
  | expansionOpportunities =>
    obtain ⟨-, -, points, hnovel, hscore⟩ := hc
    rw [hscore]
    exact Magnitude.ofNat_pos hnovel.pos

theorem mem_nodeList : n ∈ g.nodeList ↔ n ∈ g.nodes := Array.mem_toList_iff

theorem Built.mem_similar (h : g.Built) (hseed : seed ∈ g.nodes) :
    c ∈ g.similar seed ↔ g.Qualifies seed .similarEntities c := by
  have hsimilar (m : Node) : g.similarity seed m = g.affinity seed m :=
    similarity_eq h.sound (h.ascending_properties hseed)
  simp only [similar, List.mem_filter, List.mem_map, mem_nodeList, Bool.and_eq_true,
    decide_eq_true_eq, List.any_eq_true, Node.hasLabel, List.contains_iff_mem, hsimilar]
  constructor
  · rintro ⟨⟨m, ⟨hm, hne, hlabel⟩, rfl⟩, hpos⟩
    exact ⟨hm, hne, hlabel, rfl, hpos⟩
  · rintro ⟨hm, hne, hlabel, hscore, hpos⟩
    exact ⟨⟨c.node, ⟨hm, hne, hlabel⟩, by rw [← hscore]⟩, hpos⟩

namespace Sound

variable (h : g.Sound)

include h

/-- What a neighbour of the seed leads to, the seed and its neighbours aside, is two hops away. -/
theorem mem_found {v : NodeId} :
    v ∈ ((g.neighbors seed.id).flatMap g.neighbors).filter
        (fun id => id ≠ seed.id && !(g.neighbors seed.id).contains id) ↔
      g.AtDistance 2 seed.id v := by
  simp only [List.mem_filter, List.mem_flatMap, h.mem_neighbors, Bool.and_eq_true,
    decide_eq_true_eq, Bool.not_eq_true', List.contains_eq_mem, decide_eq_false_iff_not,
    atDistance_two]
  change ((∃ u, (u ≠ seed.id ∧ g.Adjacent seed.id u) ∧ v ≠ u ∧ g.Adjacent u v) ∧
    v ≠ seed.id ∧ ¬(v ≠ seed.id ∧ g.Adjacent seed.id v)) ↔ _
  constructor
  · rintro ⟨⟨u, ⟨-, hsu⟩, -, huv⟩, hne, hfar⟩
    exact ⟨hne, fun hnear => hfar ⟨hne, hnear⟩, u, hsu, huv⟩
  · rintro ⟨hne, hfar, u, hsu, huv⟩
    refine ⟨⟨u, ⟨?_, hsu⟩, ?_, huv⟩, hne, fun hnear => hfar hnear.2⟩
    · rintro rfl
      exact hfar huv
    · rintro rfl
      exact hfar hsu

theorem mem_potentialConnections :
    c ∈ g.potentialConnections seed ↔ g.Qualifies seed .potentialConnections c := by
  simp only [potentialConnections, List.mem_filterMap, Option.map_eq_some_iff, h.node?_eq_some,
    mem_ascendingBy fun a _ b _ heq => NodeId.number_injective heq, h.mem_found]
  constructor
  · rintro ⟨_, hfar, m, ⟨hm, rfl⟩, rfl⟩
    refine ⟨hm, hfar, ?_⟩
    rw [h.countP_neighbors (atDistance_two.1 hfar).2.1]
  · rintro ⟨hm, hfar, hscore⟩
    refine ⟨c.node.id, hfar, c.node, ⟨hm, rfl⟩, ?_⟩
    rw [h.countP_neighbors (atDistance_two.1 hfar).2.1, ← hscore]

theorem mem_expansionOpportunities :
    c ∈ g.expansionOpportunities seed ↔ g.Qualifies seed .expansionOpportunities c := by
  simp only [expansionOpportunities, List.mem_filterMap, List.mem_filter, mem_nodeList,
    Option.map_eq_some_iff, h.novelty_eq_some, decide_eq_true_eq]
  constructor
  · rintro ⟨m, ⟨hm, hne⟩, points, hnovel, rfl⟩
    exact ⟨hm, hne, points, hnovel, rfl⟩
  · rintro ⟨hm, hne, points, hnovel, hscore⟩
    exact ⟨c.node, ⟨hm, hne⟩, points, hnovel, by rw [← hscore]⟩

/-- Candidates are found in the order of nodes. -/
theorem ascends_candidates (seed : Node) (recommender : Recommender) :
    Ascends (fun c : Candidate => c.node.id.number) (g.candidates seed recommender) := by
  cases recommender with
  | similarEntities =>
    refine List.Pairwise.filter _ (List.pairwise_map.2 ?_)
    exact h.ascends_nodeList.filter _
  | potentialConnections =>
    refine List.pairwise_filterMap.2 ((ascends_ascendingBy NodeId.number _).imp ?_)
    intro u v huv a ha b hb
    obtain ⟨m, hm, rfl⟩ := Option.map_eq_some_iff.1 ha
    obtain ⟨n, hn, rfl⟩ := Option.map_eq_some_iff.1 hb
    change m.id.number < n.id.number
    rwa [(h.node?_eq_some.1 hm).2, (h.node?_eq_some.1 hn).2]
  | expansionOpportunities =>
    refine List.pairwise_filterMap.2 ((h.ascends_nodeList.filter _).imp ?_)
    intro m n hmn a ha b hb
    obtain ⟨_, -, rfl⟩ := Option.map_eq_some_iff.1 ha
    obtain ⟨_, -, rfl⟩ := Option.map_eq_some_iff.1 hb
    exact hmn

end Sound

theorem Built.mem_candidates (h : g.Built) (hseed : seed ∈ g.nodes) {recommender : Recommender} :
    c ∈ g.candidates seed recommender ↔ g.Qualifies seed recommender c := by
  cases recommender with
  | similarEntities => exact h.mem_similar hseed
  | potentialConnections => exact h.sound.mem_potentialConnections
  | expansionOpportunities => exact h.sound.mem_expansionOpportunities

end Graph

end FacetedGraph
