import FacetedGraph.Proofs.Graph.Incidence
import Mathlib.Data.List.Induction

/-!
# Walks

A walk follows relationships of the graph, each of them in either direction, and may come back to
where it was.

## Main definitions

* `Graph.Walk` — the walks of a graph, told by their relationships.
* `Graph.Within` — a node is so many hops away from another, or fewer.
* `Graph.AtDistance` — it is not fewer.

## Main statements

* `Graph.Walk.append`, `Graph.walk_snoc` — walks put together, and the last step of a walk.
* `Graph.within_succ` — what is one hop further.
* `Graph.atDistance_succ` — a shortest walk leads through the distance below.
-/

namespace FacetedGraph.Graph

inductive Walk (g : Graph) : NodeId → List Relationship → NodeId → Prop
  | nil (u : NodeId) : g.Walk u [] u
  | cons {r : Relationship} {u v w : NodeId} {rs : List Relationship} :
      r ∈ g.relationships → r.otherEnd u = some v → g.Walk v rs w → g.Walk u (r :: rs) w

/-- A walk of at most `depth` hops leads from one node to the other. -/
def Within (g : Graph) (depth : Nat) (u v : NodeId) : Prop :=
  ∃ rs, g.Walk u rs v ∧ rs.length ≤ depth

/-- The shortest walk from one node to the other has `depth` hops. -/
def AtDistance (g : Graph) (depth : Nat) (u v : NodeId) : Prop :=
  g.Within depth u v ∧ ∀ i < depth, ¬ g.Within i u v

variable {g : Graph} {u v w : NodeId} {rs qs : List Relationship} {r : Relationship} {i j : Nat}

/-! ## Putting walks together -/

theorem Walk.append (huv : g.Walk u rs v) (hvw : g.Walk v qs w) : g.Walk u (rs ++ qs) w := by
  induction huv with
  | nil => exact hvw
  | cons hr ho _ ih => exact .cons hr ho (ih hvw)

/-- A walk of one more relationship is a walk and a last step. -/
theorem walk_snoc : g.Walk u (rs ++ [r]) w ↔
    ∃ v, g.Walk u rs v ∧ r ∈ g.relationships ∧ r.otherEnd v = some w := by
  constructor
  · intro huw
    induction rs generalizing u with
    | nil =>
      obtain _ | ⟨hr, ho, hnil⟩ := huw
      cases hnil
      exact ⟨u, .nil u, hr, ho⟩
    | cons q rest ih =>
      obtain _ | ⟨hq, ho, hrest⟩ := huw
      obtain ⟨v, hv, hr, hlast⟩ := ih hrest
      exact ⟨v, .cons hq ho hv, hr, hlast⟩
  · rintro ⟨v, huv, hr, ho⟩
    exact huv.append (.cons hr ho (.nil w))

/-- What a walk leads to is a node of the graph, if the walk starts at one. -/
theorem Sound.isSome_node?_of_walk (h : g.Sound) (hw : g.Walk u rs v)
    (hu : (g.node? u).isSome) : (g.node? v).isSome := by
  induction hw with
  | nil => exact hu
  | cons hr ho _ ih => exact ih (h.isSome_node?_of_otherEnd hr ho)

/-- What a walk to another node starts from is a node of the graph. -/
theorem Sound.isSome_node?_of_walk_ne (h : g.Sound) (hw : g.Walk u rs v) (hne : u ≠ v) :
    (g.node? u).isSome := by
  cases hw with
  | nil => exact absurd rfl hne
  | cons hr ho _ => exact h.isSome_node?_of_otherEnd hr (Relationship.otherEnd_symm ho)

/-! ## Distance -/

theorem within_zero : g.Within 0 u v ↔ v = u := by
  constructor
  · rintro ⟨rs, hw, hlen⟩
    obtain rfl := List.length_eq_zero_iff.1 (Nat.le_zero.1 hlen)
    cases hw
    rfl
  · rintro rfl
    exact ⟨[], .nil v, Nat.le_refl 0⟩

theorem Within.mono (h : g.Within i u v) (hij : i ≤ j) : g.Within j u v := by
  obtain ⟨rs, hw, hlen⟩ := h
  exact ⟨rs, hw, Nat.le_trans hlen hij⟩

/-- What is within one hop more is within the hops before, or next to what is. -/
theorem within_succ : g.Within (i + 1) u w ↔
    g.Within i u w ∨ ∃ v, g.Within i u v ∧ ∃ r ∈ g.relationships, r.otherEnd v = some w := by
  constructor
  · rintro ⟨rs, hw, hlen⟩
    induction rs using List.reverseRecOn with
    | nil => exact .inl ⟨[], hw, Nat.zero_le i⟩
    | append_singleton rs r =>
      obtain ⟨v, huv, hr, ho⟩ := walk_snoc.1 hw
      rw [List.length_append, List.length_singleton] at hlen
      exact .inr ⟨v, ⟨rs, huv, by omega⟩, r, hr, ho⟩
  · rintro (h | ⟨v, ⟨rs, huv, hlen⟩, r, hr, ho⟩)
    · exact h.mono (Nat.le_succ i)
    · refine ⟨rs ++ [r], walk_snoc.2 ⟨v, huv, hr, ho⟩, ?_⟩
      rw [List.length_append, List.length_singleton]
      omega

theorem atDistance_zero : g.AtDistance 0 u v ↔ v = u := by
  simp [AtDistance, within_zero]

/-- What is one hop further than a distance is next to something at that distance. -/
theorem atDistance_succ : g.AtDistance (i + 1) u w ↔
    (∃ v, g.AtDistance i u v ∧ ∃ r ∈ g.relationships, r.otherEnd v = some w) ∧
      ¬ g.Within i u w := by
  constructor
  · rintro ⟨hw, hfar⟩
    have hnot : ¬ g.Within i u w := hfar i (Nat.lt_succ_self i)
    rcases within_succ.1 hw with hw | ⟨v, hv, r, hr, ho⟩
    · exact absurd hw hnot
    · refine ⟨⟨v, ⟨hv, fun j hj hnear => ?_⟩, r, hr, ho⟩, hnot⟩
      -- a shorter walk to `v` would lead to `w` too early
      exact hfar (j + 1) (by omega) (within_succ.2 (.inr ⟨v, hnear, r, hr, ho⟩))
  · rintro ⟨⟨v, hv, r, hr, ho⟩, hnot⟩
    refine ⟨within_succ.2 (.inr ⟨v, hv.1, r, hr, ho⟩), fun j hj hnear => ?_⟩
    exact hnot (hnear.mono (by omega))

end FacetedGraph.Graph
