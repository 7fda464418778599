import FacetedGraph.Proofs.Recommendation
import FacetedGraph.Proofs.Value.Equivalence

/-!
# Opportunities next to the seed

Opportunities are what is new to the neighbours of a seed, and no neighbour should be new to itself.
Its label never is. Its region and its channel are compared with what the neighbours hold, itself
among them, so they are new only where none of it equals even itself: a list of nulls, or NaN.

## Main definitions

* `Node.Unequal` — a node holds something under a key, and nothing of it equals itself.

## Main statements

* `Graph.IsNeighbor.exists_novel_iff` — which neighbours are new.
* `Engine.recommend_expansionOpportunities` — what is proposed, and which neighbours are.
-/

namespace FacetedGraph

def Node.Unequal (n : Node) (key : String) : Prop :=
  n.held key ≠ [] ∧ ∀ v ∈ n.held key, v.equivalent v = false

/-- Where all that is held is plain and not null, it equals itself. -/
theorem Node.not_unequal_of_plain {n : Node} {key : String}
    (h : ∀ v ∈ n.held key, v.Plain ∧ v ≠ .null) : ¬ n.Unequal key := by
  rintro ⟨hheld, hunequal⟩
  obtain ⟨v, hv⟩ := List.exists_mem_of_ne_nil _ hheld
  obtain ⟨hplain, hne⟩ := h v hv
  exact Bool.false_ne_true ((hunequal v hv).symm.trans (hplain.equivalent_self hne))

namespace Graph.IsNeighbor

variable {g : Graph} {u : NodeId} {n : Node} {key : String}

theorem not_newLabel (h : g.IsNeighbor u n) : ¬ g.NewLabel u n :=
  fun ⟨_, hlabel, hnew⟩ => hnew n h hlabel

/-- What a neighbour holds is compared with itself as well. -/
theorem newUnder_iff (h : g.IsNeighbor u n) : g.NewUnder key u n ↔ n.Unequal key := by
  constructor
  · exact fun ⟨hheld, hnew⟩ => ⟨hheld, fun v hv => hnew v hv n h v hv⟩
  · rintro ⟨hheld, hunequal⟩
    refine ⟨hheld, fun v hv m _ w _ => Bool.eq_false_iff.2 fun hvw => ?_⟩
    exact Bool.false_ne_true
      ((hunequal v hv).symm.trans (Value.equivalent_self_of_equivalent hvw))

theorem exists_novel_iff (h : g.IsNeighbor u n) :
    (∃ points, g.Novel u n points) ↔ n.Unequal "region" ∨ n.Unequal "channel" := by
  rw [← h.newUnder_iff, ← h.newUnder_iff]
  constructor
  · rintro ⟨_, hlabel | ⟨-, hregion⟩ | ⟨-, -, hchannel⟩⟩
    · exact absurd hlabel h.not_newLabel
    · exact .inl hregion
    · exact .inr hchannel
  · intro hnew
    by_cases hregion : g.NewUnder "region" u n
    · exact ⟨2, .region h.not_newLabel hregion⟩
    · exact ⟨1, .channel h.not_newLabel hregion (hnew.resolve_left hregion)⟩

end Graph.IsNeighbor

namespace MemoryStore

/-- Two companies with a link, and the region of the second one is a list of one null. -/
def nullRegion : MemoryStore :=
  let s := (({} : MemoryStore).createNode ["COMPANY"] []).1
  let s := (s.createNode ["COMPANY"] [("region", .list [.null])]).1
  (s.createRelationship ⟨0⟩ ⟨1⟩ "LINKED" []).1

theorem healthy_nullRegion : nullRegion.Healthy := ⟨rfl, rfl, rfl⟩

theorem built_nullRegion : nullRegion.graph.Built := by
  repeat' first | exact .empty | apply built_createRelationship | apply built_createNode

theorem candidates_nullRegion :
    (nullRegion.graph.candidates ⟨⟨0⟩, ["COMPANY"], []⟩ .expansionOpportunities).Pairwise
        (Graph.ranksBefore · ·) ∧
      ((nullRegion.graph.candidates ⟨⟨0⟩, ["COMPANY"], []⟩ .expansionOpportunities).map fun c =>
        (c.node.id.text, .ofMagnitude c.score)) = [("1", Binary64.ofInt 2)] := by
  decide +kernel

theorem isNeighbor_recommendations :
    recommendations.graph.IsNeighbor ⟨0⟩ recommendationNeighbor :=
  built_recommendations.sound.mem_filterMap_neighbors.1
    (List.mem_filterMap.2 ⟨⟨1⟩, by decide, rfl⟩)

theorem isNeighbor_nullRegion :
    nullRegion.graph.IsNeighbor ⟨0⟩ ⟨⟨1⟩, ["COMPANY"], [("region", .list [.null])]⟩ :=
  built_nullRegion.sound.mem_filterMap_neighbors.1
    (List.mem_filterMap.2 ⟨⟨1⟩, by decide, rfl⟩)

end MemoryStore

namespace Engine

variable {s : MemoryStore}

/-- Opportunities are the other nodes that are new to the neighbours of the seed. A neighbour is one
where its region or its channel equals nothing, not even itself, and nowhere else. So no neighbour
is one whose regions and channels are plain values other than null. -/
theorem recommend_expansionOpportunities (hs : s.Healthy) (hb : s.graph.Built) (e : Engine)
    {seed : Node} (hseed : seed ∈ s.graph.nodes) {limit : Nat} (hlimit : 1 ≤ limit ∧ limit ≤ 50) :
    ∃ ranking : List Candidate,
      (e.recommend seed.id .expansionOpportunities (some limit)).run s =
        (.ok ((ranking.take limit).map Candidate.view), s) ∧
      (∀ c, c ∈ ranking ↔ c.node ∈ s.graph.nodes ∧ c.node.id ≠ seed.id ∧
        ∃ points, s.graph.Novel seed.id c.node points ∧ c.score = .ofNat points) ∧
      ∀ n, s.graph.IsNeighbor seed.id n →
        ((∃ c ∈ ranking, c.node = n) ↔ n.Unequal "region" ∨ n.Unequal "channel") ∧
        ((∀ key, key = "region" ∨ key = "channel" → ∀ v ∈ n.held key, v.Plain ∧ v ≠ .null) →
          ∀ c ∈ ranking, c.node ≠ n) := by
  have hproposed (n : Node) (hn : s.graph.IsNeighbor seed.id n) :
      (∃ c ∈ s.graph.ranking seed.id .expansionOpportunities, c.node = n) ↔
        n.Unequal "region" ∨ n.Unequal "channel" := by
    rw [← hn.exists_novel_iff]
    simp only [hb.mem_ranking_id hseed]
    constructor
    · rintro ⟨c, ⟨-, -, points, hnovel, -⟩, rfl⟩
      exact ⟨points, hnovel⟩
    · rintro ⟨points, hnovel⟩
      exact ⟨⟨n, .ofNat points⟩, ⟨hn.1, hn.2.1, points, hnovel, rfl⟩, rfl⟩
  refine ⟨s.graph.ranking seed.id .expansionOpportunities, recommend_eq_take hs e _ _ hlimit,
    fun _ => hb.mem_ranking_id hseed, fun n hn => ⟨hproposed n hn, fun hplain c hc heq => ?_⟩⟩
  rcases (hproposed n hn).1 ⟨c, hc, heq⟩ with hregion | hchannel
  · exact Node.not_unequal_of_plain (hplain _ (.inl rfl)) hregion
  · exact Node.not_unequal_of_plain (hplain _ (.inr rfl)) hchannel

theorem recommend_expansionOpportunities_products :
    MemoryStore.recommendations.Healthy ∧ MemoryStore.recommendations.graph.Built ∧
      MemoryStore.recommendationSeed ∈ MemoryStore.recommendations.graph.nodes ∧
      (1 ≤ 10 ∧ 10 ≤ 50) ∧
      ∃ ranking : List Candidate,
        (recommend {} ⟨0⟩ .expansionOpportunities (some 10)).run MemoryStore.recommendations =
          (.ok ((ranking.take 10).map Candidate.view), MemoryStore.recommendations) ∧
        ((ranking.take 10).map Candidate.view).map (fun r => (r.node.id, r.score)) =
          [("3", .ofInt 3), ("4", .ofInt 3), ("5", .ofInt 2)] ∧
        ∀ c ∈ ranking, c.node ≠ MemoryStore.recommendationNeighbor := by
  have hlimit : 1 ≤ 10 ∧ 10 ≤ 50 := by decide
  refine ⟨MemoryStore.healthy_recommendations, MemoryStore.built_recommendations,
    MemoryStore.mem_recommendations, hlimit, ?_⟩
  obtain ⟨ranking, hrun, -, hneighbors⟩ := recommend_expansionOpportunities
    MemoryStore.healthy_recommendations MemoryStore.built_recommendations {}
    MemoryStore.mem_recommendations hlimit
  have hview := Call.view_of_run hrun (MemoryStore.scores_recommendations _ hlimit)
  refine ⟨ranking, hrun, hview,
    (hneighbors _ MemoryStore.isNeighbor_recommendations).2 ?_⟩
  have hregion : MemoryStore.recommendationNeighbor.held "region" = [.string "EU"] := rfl
  have hchannel : MemoryStore.recommendationNeighbor.held "channel" = [] := rfl
  rintro key (rfl | rfl) v hv
  · rw [hregion, List.mem_singleton] at hv
    subst hv
    exact ⟨.string "EU", nofun⟩
  · rw [hchannel] at hv
    cases hv

/-- A neighbour whose region is a list of one null is proposed for its region. -/
theorem recommend_nullRegion :
    MemoryStore.nullRegion.Healthy ∧ MemoryStore.nullRegion.graph.Built ∧
      (∃ seed ∈ MemoryStore.nullRegion.graph.nodes, seed.id = ⟨0⟩) ∧ (1 ≤ 10 ∧ 10 ≤ 50) ∧
      ∃ n, MemoryStore.nullRegion.graph.IsNeighbor ⟨0⟩ n ∧
        ∃ answer, (recommend {} ⟨0⟩ .expansionOpportunities (some 10)).run
            MemoryStore.nullRegion = (.ok answer, MemoryStore.nullRegion) ∧
          answer.map (fun r => (r.node.id, r.score)) = [(n.id.text, .ofInt 2)] := by
  have hlimit : 1 ≤ 10 ∧ 10 ≤ 50 := by decide
  have hfound : MemoryStore.nullRegion.graph.node? ⟨0⟩ = some ⟨⟨0⟩, ["COMPANY"], []⟩ := rfl
  have hseed := MemoryStore.built_nullRegion.sound.node?_eq_some.1 hfound
  have hrun := recommend_eq_take MemoryStore.healthy_nullRegion {} ⟨0⟩ .expansionOpportunities
    hlimit
  have hview := Call.view_of_run hrun
    (scores_of_candidates MemoryStore.healthy_nullRegion {} hfound hlimit
      MemoryStore.candidates_nullRegion.1 MemoryStore.candidates_nullRegion.2)
  exact ⟨MemoryStore.healthy_nullRegion, MemoryStore.built_nullRegion, ⟨_, hseed⟩, hlimit, _,
    MemoryStore.isNeighbor_nullRegion, _, hrun, hview⟩

end Engine

end FacetedGraph
