import FacetedGraph.Proofs.Calls
import FacetedGraph.Proofs.Graph.Candidates
import Mathlib.Data.Prod.Lex

/-!
# Rankings

All candidates for a seed in one order, of which every recommendation is a beginning.

## Main definitions

* `Candidate.Outranks` — the order of a ranking.
* `Graph.ranking` — all candidates for a seed, the best first.

## Main statements

* `Graph.Built.mem_ranking` — a ranking has just what qualifies.
* `Graph.Sound.pairwise_ranking`, `Graph.Sound.nodup_ranking` — it is in strict order and has each
  node once.
* `rel_of_notMem_take` — what a cut leaves out comes after everything that it keeps.
* `Engine.recommend_eq_take` — a recommendation over a healthy store is a cut of the ranking.
-/

namespace FacetedGraph

/-! ## Order -/

namespace Candidate

/-- Candidates stand by descending score, and of one score by ascending identity. -/
def Outranks (a b : Candidate) : Prop :=
  b.score < a.score ∨ a.score = b.score ∧ a.node.id.number < b.node.id.number

/-- Where a candidate stands in a ranking. -/
def place (c : Candidate) : Magnitudeᵒᵈ ×ₗ Nat := toLex (OrderDual.toDual c.score, c.node.id.number)

theorem outranks_iff {a b : Candidate} : a.Outranks b ↔ a.place < b.place := by
  rw [place, place, Prod.Lex.toLex_lt_toLex, OrderDual.toDual_lt_toDual, OrderDual.toDual_inj,
    Outranks]

end Candidate

/-- Of a list in order, a cut is full when it leaves something out, and what it leaves out comes
after everything that it keeps. -/
theorem rel_of_notMem_take {α : Type} {R : α → α → Prop} {items : List α} {a : α} {limit : Nat}
    (h : items.Pairwise R) (ha : a ∈ items) (habsent : a ∉ items.take limit) :
    (items.take limit).length = limit ∧ ∀ b ∈ items.take limit, R b a := by
  rw [← List.take_append_drop limit items] at h ha
  have hdrop : a ∈ items.drop limit := (List.mem_append.1 ha).resolve_left habsent
  refine ⟨?_, fun b hb => (List.pairwise_append.1 h).2.2 b hb a hdrop⟩
  have hpos := List.length_pos_of_mem hdrop
  rw [List.length_drop] at hpos
  rw [List.length_take]
  omega

namespace Graph

variable {g : Graph} {seed : NodeId} {recommender : Recommender} {c : Candidate}

theorem ranksBefore_iff {a b : Candidate} : ranksBefore a b = true ↔ a.place ≤ b.place := by
  rw [Candidate.place, Candidate.place, Prod.Lex.toLex_le_toLex, OrderDual.toDual_lt_toDual,
    OrderDual.toDual_inj, ranksBefore]
  simp only [Bool.or_eq_true, Bool.and_eq_true, decide_eq_true_eq, beq_iff_eq,
    eq_comm (a := b.score)]

/-- Sorting puts candidates that are different nodes in strict order. -/
theorem pairwise_outranks {candidates : List Candidate}
    (hnodup : (candidates.map (·.node.id.number)).Nodup) :
    (candidates.mergeSort ranksBefore).Pairwise Candidate.Outranks := by
  have htrans (a b c : Candidate) (hab : ranksBefore a b) (hbc : ranksBefore b c) :
      ranksBefore a c :=
    ranksBefore_iff.2 ((ranksBefore_iff.1 hab).trans (ranksBefore_iff.1 hbc))
  have htotal (a b : Candidate) : (ranksBefore a b || ranksBefore b a) = true := by
    rw [Bool.or_eq_true, ranksBefore_iff, ranksBefore_iff]
    exact le_total _ _
  have hperm := List.mergeSort_perm candidates ranksBefore
  have hapart := List.pairwise_map.1 ((hperm.map _).nodup_iff.2 hnodup)
  refine ((List.pairwise_mergeSort htrans htotal candidates).and hapart).imp ?_
  rintro a b ⟨hle, hne⟩
  refine Candidate.outranks_iff.2 (lt_of_le_of_ne (ranksBefore_iff.1 hle) fun heq => hne ?_)
  exact congrArg (fun p => (ofLex p).2) heq

/-- All candidates for a seed, the best first. A seed that is not there has none. -/
def ranking (g : Graph) (seed : NodeId) (recommender : Recommender) : List Candidate :=
  ((g.node? seed).map fun n => (g.candidates n recommender).mergeSort ranksBefore).getD []

theorem ranked_eq (g : Graph) (seed : NodeId) (recommender : Recommender) (limit : Nat) :
    g.ranked seed recommender limit = (g.ranking seed recommender).take limit := by
  unfold ranked ranking
  cases g.node? seed <;> simp

/-- Candidates that are found in order are not moved. -/
theorem ranking_of_pairwise {n : Node} (hn : g.node? seed = some n)
    (h : (g.candidates n recommender).Pairwise (ranksBefore · ·)) :
    g.ranking seed recommender = g.candidates n recommender := by
  rw [ranking, hn, Option.map_some, Option.getD_some, List.mergeSort_of_pairwise h]

theorem Built.mem_ranking (h : g.Built) : c ∈ g.ranking seed recommender ↔
    ∃ n ∈ g.nodes, n.id = seed ∧ g.Qualifies n recommender c := by
  rw [ranking]
  cases hseed : g.node? seed with
  | none =>
    simp only [Option.map_none, Option.getD_none, List.not_mem_nil, false_iff]
    rintro ⟨n, hn, hid, -⟩
    cases hseed.symm.trans (h.sound.node?_eq_some.2 ⟨hn, hid⟩)
  | some n =>
    obtain ⟨hn, hid⟩ := h.sound.node?_eq_some.1 hseed
    rw [Option.map_some, Option.getD_some, List.mem_mergeSort, h.mem_candidates hn]
    constructor
    · exact fun hc => ⟨n, hn, hid, hc⟩
    · rintro ⟨m, hm, hid', hc⟩
      rwa [h.sound.node_ext hn hm (hid.trans hid'.symm)]

/-- Seen from a node of the graph, a ranking has just what qualifies for it. -/
theorem Built.mem_ranking_id (h : g.Built) {n : Node} (hn : n ∈ g.nodes) :
    c ∈ g.ranking n.id recommender ↔ g.Qualifies n recommender c := by
  rw [h.mem_ranking]
  constructor
  · rintro ⟨m, hm, hid, hc⟩
    rwa [← h.sound.node_ext hm hn hid]
  · exact fun hc => ⟨n, hn, rfl, hc⟩

theorem Sound.pairwise_ranking (h : g.Sound) (seed : NodeId) (recommender : Recommender) :
    (g.ranking seed recommender).Pairwise Candidate.Outranks := by
  rw [ranking]
  cases g.node? seed with
  | none => exact .nil
  | some n => exact pairwise_outranks (h.ascends_candidates n recommender).nodup_map

theorem Sound.nodup_ranking (h : g.Sound) (seed : NodeId) (recommender : Recommender) :
    ((g.ranking seed recommender).map (·.node.id)).Nodup := by
  rw [ranking]
  cases g.node? seed with
  | none => exact .nil
  | some n =>
    have hperm := List.mergeSort_perm (g.candidates n recommender) ranksBefore
    refine ((hperm.map _).nodup_iff).2 (.of_map NodeId.number ?_)
    rw [List.map_map]
    exact (h.ascends_candidates n recommender).nodup_map

end Graph

namespace Engine

variable {s : MemoryStore} {seed : NodeId} {limit : Nat}

/-- How many are asked for only says where the ranking is cut. -/
theorem recommend_eq_take (hs : s.Healthy) (e : Engine) (seed : NodeId)
    (recommender : Recommender) (hlimit : 1 ≤ limit ∧ limit ≤ 50) :
    (e.recommend seed recommender (some limit)).run s =
      (.ok (((s.graph.ranking seed recommender).take limit).map Candidate.view), s) := by
  have hrun : (e.recommend seed recommender (some limit)).run s =
      (.ok ((s.graph.ranked seed recommender limit).map Candidate.view), s) :=
    recommend_ok hs e seed recommender rfl hlimit
  rw [hrun, Graph.ranked_eq]

/-- Where candidates are found in order, the answer is read off them. -/
theorem scores_of_candidates (hs : s.Healthy) (e : Engine) {n : Node}
    (hn : s.graph.node? seed = some n) (hlimit : 1 ≤ limit ∧ limit ≤ 50)
    {recommender : Recommender} {scores : List (String × Binary64)}
    (hordered : (s.graph.candidates n recommender).Pairwise (Graph.ranksBefore · ·))
    (hscores : ((s.graph.candidates n recommender).map fun c =>
      (c.node.id.text, .ofMagnitude c.score)) = scores) :
    ((e.recommend seed recommender (some limit)).run s).1.map
        (List.map fun r => (r.node.id, r.score)) = .ok (scores.take limit) := by
  rw [recommend_eq_take hs e seed recommender hlimit, Graph.ranking_of_pairwise hn hordered,
    ← hscores, ← List.map_take]
  simp only [Except.map, List.map_map]
  rfl

end Engine

end FacetedGraph
