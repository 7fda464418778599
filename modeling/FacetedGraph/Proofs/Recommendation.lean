import FacetedGraph.Proofs.Graph.Relisting

/-!
# Recommendations

A recommendation for a node over a healthy store gives the first entries of a list that does not
depend on how many are asked for. What the list has is told by the graph alone, and it is strictly
ordered by descending score and ascending identity.

## Main definitions

* `MemoryStore.recommendations` — a small store with something to recommend of each kind.

## Main statements

* `Engine.recommend_potentialConnections` — the nodes two hops away, scored by intermediaries.
* `Engine.recommend_similarEntities` — the nodes with a label of the seed, scored by shared
  properties and by intermediaries, in whatever order properties are listed.
* `Engine.recommend_stable` — of each kind, a smaller limit gives a beginning of the same list.
-/

namespace FacetedGraph

namespace MemoryStore

/-- Two companies, `1` and `2`, are between the products `0` and `3`, and one of them is also next
to the product `4`. The company `5` stands alone. -/
def recommendations : MemoryStore :=
  let s := (({} : MemoryStore).createNode ["PRODUCT"]
    [("region", .string "EU"), ("rank", .int 1)]).1
  let s := (s.createNode ["COMPANY"] [("region", .list [.string "EU"])]).1
  let s := (s.createNode ["COMPANY"] []).1
  let s := (s.createNode ["PRODUCT"]
    [("region", .string "EU"), ("rank", .float (.ofInt 1))]).1
  let s := (s.createNode ["PRODUCT"] [("region", .string "US")]).1
  let s := (s.createNode ["COMPANY"] [("region", .string "US")]).1
  let s := (s.createRelationship ⟨0⟩ ⟨1⟩ "LINKS" []).1
  let s := (s.createRelationship ⟨0⟩ ⟨1⟩ "RATES" []).1
  let s := (s.createRelationship ⟨1⟩ ⟨3⟩ "LINKS" []).1
  let s := (s.createRelationship ⟨2⟩ ⟨3⟩ "LINKS" []).1
  let s := (s.createRelationship ⟨0⟩ ⟨2⟩ "LINKS" []).1
  let s := (s.createRelationship ⟨0⟩ ⟨0⟩ "LINKS" []).1
  (s.createRelationship ⟨4⟩ ⟨2⟩ "LINKS" []).1

theorem healthy_recommendations : recommendations.Healthy := ⟨rfl, rfl, rfl⟩

theorem built_recommendations : recommendations.graph.Built := by
  repeat' first | exact .empty | apply built_createRelationship | apply built_createNode

/-- The product `0` of the sample. -/
def recommendationSeed : Node where
  id := ⟨0⟩
  labels := ["PRODUCT"]
  properties := Fields.ofList [("region", .string "EU"), ("rank", .int 1)]

/-- The company `1` of the sample, which is next to the seed. -/
def recommendationNeighbor : Node where
  id := ⟨1⟩
  labels := ["COMPANY"]
  properties := Fields.ofList [("region", .list [.string "EU"])]

theorem node?_recommendations :
    recommendations.graph.node? ⟨0⟩ = some recommendationSeed := rfl

theorem mem_recommendations : recommendationSeed ∈ recommendations.graph.nodes :=
  (built_recommendations.sound.node?_eq_some.1 node?_recommendations).1

/-- What there is to recommend for the product `0`, and for what score. -/
def recommended : Recommender → List (String × Binary64)
  | .similarEntities => [("3", .ofInt 3), ("4", .ofInt 1)]
  | .potentialConnections => [("3", .ofInt 2), ("4", .ofInt 1)]
  | .expansionOpportunities => [("3", .ofInt 3), ("4", .ofInt 3), ("5", .ofInt 2)]

/-- The candidates of each kind are found in order. -/
theorem candidates_recommendations (recommender : Recommender) :
    (recommendations.graph.candidates recommendationSeed recommender).Pairwise
        (Graph.ranksBefore · ·) ∧
      ((recommendations.graph.candidates recommendationSeed recommender).map fun c =>
        (c.node.id.text, .ofMagnitude c.score)) = recommended recommender := by
  cases recommender <;> decide +kernel

theorem scores_recommendations (recommender : Recommender) {limit : Nat}
    (hlimit : 1 ≤ limit ∧ limit ≤ 50) :
    ((Engine.recommend {} ⟨0⟩ recommender (some limit)).run recommendations).1.map
        (List.map fun r => (r.node.id, r.score)) = .ok ((recommended recommender).take limit) :=
  Engine.scores_of_candidates healthy_recommendations {} node?_recommendations hlimit
    (candidates_recommendations recommender).1 (candidates_recommendations recommender).2

end MemoryStore

namespace Engine

variable {s : MemoryStore}

/-- Connections are the nodes two hops away, each with how many intermediaries lead there. -/
theorem recommend_potentialConnections (hs : s.Healthy) (hb : s.graph.Built) (e : Engine)
    {seed : Node} (hseed : seed ∈ s.graph.nodes) {limit : Nat} (hlimit : 1 ≤ limit ∧ limit ≤ 50) :
    ∃ ranking : List Candidate,
      (e.recommend seed.id .potentialConnections (some limit)).run s =
        (.ok ((ranking.take limit).map Candidate.view), s) ∧
      (∀ c, c ∈ ranking ↔ c.node ∈ s.graph.nodes ∧ s.graph.AtDistance 2 seed.id c.node.id ∧
        c.score = .ofNat
          {v | s.graph.Adjacent seed.id v ∧ s.graph.Adjacent c.node.id v}.ncard) ∧
      (ranking.map (·.node.id)).Nodup ∧ ranking.Pairwise Candidate.Outranks := by
  refine ⟨s.graph.ranking seed.id .potentialConnections, recommend_eq_take hs e _ _ hlimit,
    fun _ => hb.mem_ranking_id hseed, ?_, ?_⟩
  · exact hb.sound.nodup_ranking seed.id .potentialConnections
  · exact hb.sound.pairwise_ranking seed.id .potentialConnections

theorem recommend_potentialConnections_products :
    MemoryStore.recommendations.Healthy ∧ MemoryStore.recommendations.graph.Built ∧
      MemoryStore.recommendationSeed ∈ MemoryStore.recommendations.graph.nodes ∧
      (1 ≤ 10 ∧ 10 ≤ 50) ∧
      ∃ answer, (recommend {} ⟨0⟩ .potentialConnections (some 10)).run
          MemoryStore.recommendations = (.ok answer, MemoryStore.recommendations) ∧
        answer.map (fun r => (r.node.id, r.score)) = [("3", .ofInt 2), ("4", .ofInt 1)] := by
  have hlimit : 1 ≤ 10 ∧ 10 ≤ 50 := by decide
  refine ⟨MemoryStore.healthy_recommendations, MemoryStore.built_recommendations,
    MemoryStore.mem_recommendations, hlimit, ?_⟩
  obtain ⟨ranking, hrun, -⟩ := recommend_potentialConnections MemoryStore.healthy_recommendations
    MemoryStore.built_recommendations {} MemoryStore.mem_recommendations hlimit
  have hview := Call.view_of_run hrun (MemoryStore.scores_recommendations _ hlimit)
  exact ⟨_, hrun, hview⟩

/-- Similar entities are the other nodes with a label of the seed and a positive score. It is the
share of compared properties that have an equivalent value on both, and then one for each
intermediary. -/
theorem recommend_similarEntities (hs : s.Healthy) (hb : s.graph.Built) (e : Engine)
    {seed : Node} (hseed : seed ∈ s.graph.nodes) {limit : Nat} (hlimit : 1 ≤ limit ∧ limit ≤ 50) :
    ∃ ranking : List Candidate,
      (e.recommend seed.id .similarEntities (some limit)).run s =
        (.ok ((ranking.take limit).map Candidate.view), s) ∧
      (∀ c, c ∈ ranking ↔ c.node ∈ s.graph.nodes ∧ c.node.id ≠ seed.id ∧
        (∃ label ∈ c.node.labels, label ∈ seed.labels) ∧
        c.score = .share (seed.sharedKeys c.node).ncard seed.comparedKeys.ncard +
          .ofNat ({v | s.graph.Adjacent seed.id v ∧ s.graph.Adjacent c.node.id v} \
            {seed.id, c.node.id}).ncard ∧
        Magnitude.zero < c.score) ∧
      (ranking.map (·.node.id)).Nodup ∧ ranking.Pairwise Candidate.Outranks ∧
      ∀ relist : Node → Node, (∀ n, (relist n).Relists n) →
        (e.recommend seed.id .similarEntities (some limit)).run
            { s with graph := s.graph.relisted relist } =
          (.ok (((ranking.take limit).map (Candidate.relisted relist)).map Candidate.view),
            { s with graph := s.graph.relisted relist }) := by
  refine ⟨s.graph.ranking seed.id .similarEntities, recommend_eq_take hs e _ _ hlimit,
    fun _ => hb.mem_ranking_id hseed, hb.sound.nodup_ranking _ _, hb.sound.pairwise_ranking _ _,
    fun relist hrelist => ?_⟩
  have hhealthy : MemoryStore.Healthy { s with graph := s.graph.relisted relist } :=
    ⟨hs.available, hs.latency, hs.fault⟩
  rw [recommend_eq_take hhealthy e _ _ hlimit, hb.ranking_relisted hrelist, ← List.map_take]

theorem recommend_similarEntities_products :
    MemoryStore.recommendations.Healthy ∧ MemoryStore.recommendations.graph.Built ∧
      MemoryStore.recommendationSeed ∈ MemoryStore.recommendations.graph.nodes ∧
      (1 ≤ 10 ∧ 10 ≤ 50) ∧
      ∃ ranking : List Candidate,
        (recommend {} ⟨0⟩ .similarEntities (some 10)).run MemoryStore.recommendations =
          (.ok ((ranking.take 10).map Candidate.view), MemoryStore.recommendations) ∧
        ((ranking.take 10).map Candidate.view).map (fun r => (r.node.id, r.score)) =
          [("3", .ofInt 3), ("4", .ofInt 1)] ∧
        (recommend {} ⟨0⟩ .similarEntities (some 10)).run
            { MemoryStore.recommendations with
              graph := MemoryStore.recommendations.graph.relisted Node.backwards } =
          (.ok (((ranking.take 10).map (Candidate.relisted Node.backwards)).map Candidate.view),
            { MemoryStore.recommendations with
              graph := MemoryStore.recommendations.graph.relisted Node.backwards }) := by
  have hlimit : 1 ≤ 10 ∧ 10 ≤ 50 := by decide
  refine ⟨MemoryStore.healthy_recommendations, MemoryStore.built_recommendations,
    MemoryStore.mem_recommendations, hlimit, ?_⟩
  obtain ⟨ranking, hrun, -, -, -, hrelisted⟩ := recommend_similarEntities
    MemoryStore.healthy_recommendations MemoryStore.built_recommendations {}
    MemoryStore.mem_recommendations hlimit
  have hview := Call.view_of_run hrun (MemoryStore.scores_recommendations _ hlimit)
  exact ⟨ranking, hrun, hview, hrelisted _ Node.relists_backwards⟩

/-- Recommendations of each kind are cuts of one list. It has qualified nodes only, each once and
none of them the seed, in strict order, and what a cut leaves out comes after all that it keeps. -/
theorem recommend_stable (hs : s.Healthy) (hb : s.graph.Built) (e : Engine) (seed : NodeId)
    (recommender : Recommender) {k k' : Nat} (hk : 1 ≤ k) (hle : k ≤ k') (hk' : k' ≤ 50) :
    ∃ longer : List Candidate,
      (e.recommend seed recommender (some k')).run s = (.ok (longer.map Candidate.view), s) ∧
      (e.recommend seed recommender (some k)).run s =
        (.ok ((longer.take k).map Candidate.view), s) ∧
      longer.Pairwise Candidate.Outranks ∧ (longer.map (·.node.id)).Nodup ∧
      (∀ c ∈ longer, c.node.id ≠ seed ∧ Magnitude.zero < c.score ∧
        ∃ n ∈ s.graph.nodes, n.id = seed ∧ s.graph.Qualifies n recommender c) ∧
      ∀ n ∈ s.graph.nodes, n.id = seed → ∀ c, s.graph.Qualifies n recommender c →
        c ∉ longer.take k →
        (longer.take k).length = k ∧ ∀ b ∈ longer.take k, b.Outranks c := by
  have hcut : ((s.graph.ranking seed recommender).take k').take k =
      (s.graph.ranking seed recommender).take k := by
    rw [List.take_take, min_eq_left hle]
  refine ⟨(s.graph.ranking seed recommender).take k',
    recommend_eq_take hs e seed recommender ⟨hk.trans hle, hk'⟩, ?_,
    (hb.sound.pairwise_ranking seed recommender).take,
    (hb.sound.nodup_ranking seed recommender).sublist ((List.take_sublist _ _).map _), ?_, ?_⟩
  · rw [hcut]
    exact recommend_eq_take hs e seed recommender ⟨hk, hle.trans hk'⟩
  · intro c hc
    obtain ⟨n, hn, rfl, hqualifies⟩ := hb.mem_ranking.1 (List.mem_of_mem_take hc)
    exact ⟨hqualifies.ne, hb.sound.pos_of_qualifies hqualifies, n, hn, rfl, hqualifies⟩
  · rintro n hn rfl c hqualifies habsent
    rw [hcut] at habsent ⊢
    exact rel_of_notMem_take (hb.sound.pairwise_ranking n.id recommender)
      ((hb.mem_ranking_id hn).2 hqualifies) habsent

theorem recommend_stable_opportunities :
    MemoryStore.recommendations.Healthy ∧ MemoryStore.recommendations.graph.Built ∧
      1 ≤ 2 ∧ 2 ≤ 10 ∧ 10 ≤ 50 ∧
      ∃ longer : List Candidate,
        (recommend {} ⟨0⟩ .expansionOpportunities (some 10)).run MemoryStore.recommendations =
          (.ok (longer.map Candidate.view), MemoryStore.recommendations) ∧
        (recommend {} ⟨0⟩ .expansionOpportunities (some 2)).run MemoryStore.recommendations =
          (.ok ((longer.take 2).map Candidate.view), MemoryStore.recommendations) ∧
        (longer.map Candidate.view).map (fun r => (r.node.id, r.score)) =
          [("3", .ofInt 3), ("4", .ofInt 3), ("5", .ofInt 2)] := by
  refine ⟨MemoryStore.healthy_recommendations, MemoryStore.built_recommendations, by decide,
    by decide, by decide, ?_⟩
  obtain ⟨longer, hlong, hshort, -⟩ := recommend_stable MemoryStore.healthy_recommendations
    MemoryStore.built_recommendations {} ⟨0⟩ .expansionOpportunities (by decide : 1 ≤ 2)
    (by decide : 2 ≤ 10) (by decide)
  have hview := Call.view_of_run hlong (MemoryStore.scores_recommendations _ (by decide))
  exact ⟨longer, hlong, hshort, hview⟩

end Engine

end FacetedGraph
