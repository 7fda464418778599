import FacetedGraph.Graph.Recommendation
import FacetedGraph.Proofs.Counting
import FacetedGraph.Proofs.Graph.Surroundings

/-!
# Intermediaries

A relationship leads both ways, so the intermediaries of two nodes are the nodes next to both. What
is two hops away is next to a neighbour, and each neighbour that leads there is an intermediary.

## Main definitions

* `Graph.intermediaries` — the nodes next to both of two nodes.

## Main statements

* `Graph.atDistance_two` — what is two hops away.
* `Graph.Sound.commonNeighbors_eq`, `Graph.Sound.countP_neighbors` — both ways to go over the
  neighbours of a node count intermediaries.
-/

namespace FacetedGraph

namespace Graph

variable {g : Graph} {u v w : NodeId}

theorem adjacent_comm : g.Adjacent u v ↔ g.Adjacent v u := by
  constructor <;> exact fun ⟨r, hr, ho⟩ => ⟨r, hr, Relationship.otherEnd_symm ho⟩

/-! ## Two hops -/

theorem atDistance_one : g.AtDistance 1 u v ↔ v ≠ u ∧ g.Adjacent u v := by
  rw [atDistance_succ, within_zero, and_comm]
  simp only [atDistance_zero, exists_eq_left]
  rfl

/-- What is two hops away is next to something next to the start, where it is not itself. -/
theorem atDistance_two : g.AtDistance 2 u w ↔
    w ≠ u ∧ ¬ g.Adjacent u w ∧ ∃ v, g.Adjacent u v ∧ g.Adjacent v w := by
  have hlast : g.AtDistance 2 u w ↔
      (∃ v, g.AtDistance 1 u v ∧ g.Adjacent v w) ∧ ¬ g.Within 1 u w := atDistance_succ
  rw [hlast, within_one, not_or]
  simp only [atDistance_one]
  constructor
  · rintro ⟨⟨v, ⟨-, huv⟩, hvw⟩, hne, hfar⟩
    exact ⟨hne, hfar, v, huv, hvw⟩
  · rintro ⟨hne, hfar, v, huv, hvw⟩
    refine ⟨⟨v, ⟨?_, huv⟩, hvw⟩, hne, hfar⟩
    rintro rfl
    exact hfar hvw

/-! ## Intermediaries -/

def intermediaries (g : Graph) (u w : NodeId) : Set NodeId :=
  {v | g.Adjacent u v ∧ g.Adjacent w v}

theorem mem_intermediaries : v ∈ g.intermediaries u w ↔ g.Adjacent u v ∧ g.Adjacent w v := Iff.rfl

theorem intermediaries_nonempty (hw : g.AtDistance 2 u w) : (g.intermediaries u w).Nonempty := by
  obtain ⟨-, -, v, huv, hvw⟩ := atDistance_two.1 hw
  exact ⟨v, huv, adjacent_comm.1 hvw⟩

theorem nodup_neighbors (g : Graph) (u : NodeId) : (g.neighbors u).Nodup := nodup_distinct _

namespace Sound

variable (h : g.Sound)

include h

/-- The two nodes themselves are not counted, whatever loops they have. -/
theorem commonNeighbors_eq : g.commonNeighbors u w = (g.intermediaries u w \ {u, w}).ncard := by
  rw [commonNeighbors, List.countP_eq_length_filter]
  refine (ncard_eq_length ((g.nodup_neighbors w).filter _) fun v => ?_).symm
  simp only [List.mem_filter, h.mem_neighbors, Bool.and_eq_true, decide_eq_true_eq,
    List.contains_iff_mem, Set.mem_sdiff, mem_intermediaries, Set.mem_insert_iff,
    Set.mem_singleton_iff, not_or]
  constructor
  · rintro ⟨⟨hvw, hwv⟩, hvu, -, huv⟩
    exact ⟨⟨huv, hwv⟩, hvu, hvw⟩
  · rintro ⟨⟨huv, hwv⟩, hvu, hvw⟩
    exact ⟨⟨hvw, hwv⟩, hvu, hvu, huv⟩

/-- Of two nodes that are not next to each other, each neighbour of the one that leads to the other
is an intermediary. -/
theorem countP_neighbors (hfar : ¬ g.Adjacent u w) :
    (g.neighbors u).countP (fun v => (g.neighbors v).contains w) =
      (g.intermediaries u w).ncard := by
  rw [List.countP_eq_length_filter]
  refine (ncard_eq_length ((g.nodup_neighbors u).filter _) fun v => ?_).symm
  simp only [List.mem_filter, h.mem_neighbors, List.contains_iff_mem, mem_intermediaries]
  constructor
  · rintro ⟨⟨-, huv⟩, -, hvw⟩
    exact ⟨huv, adjacent_comm.1 hvw⟩
  · rintro ⟨huv, hwv⟩
    refine ⟨⟨?_, huv⟩, ?_, adjacent_comm.1 hwv⟩
    · rintro rfl
      exact hfar (adjacent_comm.1 hwv)
    · rintro rfl
      exact hfar huv

/-- There are only so many intermediaries. -/
theorem finite_intermediaries : (g.intermediaries u w).Finite := by
  refine (List.finite_toSet ((g.steps u).map Prod.snd)).subset fun v hv => ?_
  exact h.mem_map_snd_steps.2 hv.1

end Sound

end Graph

end FacetedGraph
