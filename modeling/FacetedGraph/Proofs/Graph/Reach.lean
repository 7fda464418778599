import FacetedGraph.Graph.Expansion
import FacetedGraph.Proofs.Graph.Walk

/-!
# What a seed reaches

The search from a seed goes level by level. After `i` levels it has visited what is within `i`
hops of the seed, and goes on from what is at exactly that distance.

## Main definitions

* `Graph.Level` — what is visited, and what is gone on from, after so many hops.
* `Graph.ball` — the nodes that the seeds reach.

## Main statements

* `Graph.Level.next` — one more level.
* `Graph.Sound.mem_reachFrom` — what a seed reaches.
* `Graph.Sound.mem_ball`, `Graph.Sound.ascends_ball` — what some seed reaches.
-/

namespace FacetedGraph.Graph

variable {g : Graph} {seed v : NodeId} {visited frontier : List NodeId} {i depth : Nat}

/-! ## Levels -/

structure Level (g : Graph) (seed : NodeId) (i : Nat) (visited frontier : List NodeId) : Prop where
  visited : ∀ v, v ∈ visited ↔ g.Within i seed v
  frontier : ∀ v, v ∈ frontier ↔ g.AtDistance i seed v

theorem Level.start (g : Graph) (seed : NodeId) : g.Level seed 0 [seed] [seed] where
  visited _ := by rw [within_zero, List.mem_singleton]
  frontier _ := by rw [atDistance_zero, List.mem_singleton]

/-- What is new to a level is what is one hop further. -/
theorem Level.mem_fresh (hl : g.Level seed i visited frontier) (h : g.Sound) :
    v ∈ (freshBy Prod.snd visited (frontier.flatMap g.steps)).map Prod.snd ↔
      g.AtDistance (i + 1) seed v := by
  rw [mem_map_freshBy, hl.visited, atDistance_succ]
  refine and_congr_left fun _ => ?_
  simp only [List.mem_map, List.mem_flatMap, Prod.exists, exists_eq_right, hl.frontier,
    h.mem_steps]
  constructor
  · rintro ⟨r, u, hu, hr, ho⟩
    exact ⟨u, hu, r, hr, ho⟩
  · rintro ⟨u, hu, r, hr, ho⟩
    exact ⟨r, u, hu, hr, ho⟩

theorem Level.next (hl : g.Level seed i visited frontier) (h : g.Sound)
    {fresh : List (Relationship × NodeId)}
    (hfresh : fresh = freshBy Prod.snd visited (frontier.flatMap g.steps)) :
    g.Level seed (i + 1) (visited ++ fresh.map Prod.snd) (fresh.map Prod.snd) := by
  subst hfresh
  refine ⟨fun v => ?_, fun v => hl.mem_fresh h⟩
  rw [List.mem_append, hl.mem_fresh h, hl.visited]
  constructor
  · rintro (hv | hv)
    · exact hv.mono (Nat.le_succ i)
    · exact hv.1
  · intro hv
    by_cases hnear : g.Within i seed v
    · exact .inl hnear
    · exact .inr ⟨hv, fun j hj hshort => hnear (hshort.mono (Nat.le_of_lt_succ hj))⟩

/-- From a level on, so many more levels reach what is that much further. -/
theorem Level.mem_reach (hl : g.Level seed i visited frontier) (h : g.Sound) :
    v ∈ visited ++ (g.reach depth visited frontier).map Prod.snd ↔
      g.Within (i + depth) seed v := by
  induction depth generalizing i visited frontier with
  | zero => rw [reach, List.map_nil, List.append_nil, hl.visited, Nat.add_zero]
  | succ depth ih =>
    rw [reach, List.map_append, ← List.append_assoc, ih (hl.next h rfl), Nat.add_assoc,
      Nat.add_comm 1]

theorem Sound.mem_reachFrom (h : g.Sound) :
    v ∈ seed :: (g.reachFrom depth seed).map Prod.snd ↔ g.Within depth seed v := by
  have hall : v ∈ [seed] ++ (g.reach depth [seed] [seed]).map Prod.snd ↔
      g.Within (0 + depth) seed v := (Level.start g seed).mem_reach h
  rwa [Nat.zero_add, List.singleton_append] at hall

/-! ## Several seeds -/

variable {seeds : List NodeId}

theorem ascends_reached (g : Graph) (seeds : List NodeId) (depth : Nat) :
    Ascends NodeId.number (g.reached seeds depth) :=
  ascends_ascendingBy _ _

theorem Sound.mem_reached (h : g.Sound) :
    v ∈ g.reached seeds depth ↔
      ∃ seed ∈ seeds, (g.node? seed).isSome ∧ g.Within depth seed v := by
  rw [reached, mem_ascendingBy fun a _ b _ heq => NodeId.number_injective heq]
  simp only [List.mem_flatMap, h.mem_reachFrom, presentSeeds, List.mem_filter, and_assoc]

theorem Sound.isSome_node?_of_reached (h : g.Sound) (hv : v ∈ g.reached seeds depth) :
    (g.node? v).isSome := by
  obtain ⟨seed, -, hseed, rs, hw, -⟩ := h.mem_reached.1 hv
  exact h.isSome_node?_of_walk hw hseed

/-- The nodes that the seeds reach, in ascending order. -/
def ball (g : Graph) (seeds : List NodeId) (depth : Nat) : List Node :=
  (g.reached seeds depth).filterMap g.node?

theorem Sound.map_id_ball (h : g.Sound) :
    (g.ball seeds depth).map NodeOf.id = g.reached seeds depth :=
  h.map_id_filterMap_node? fun _ hv => h.isSome_node?_of_reached hv

theorem Sound.mem_ball (h : g.Sound) {n : Node} :
    n ∈ g.ball seeds depth ↔ n ∈ g.nodes ∧
      ∃ seed ∈ seeds, (g.node? seed).isSome ∧ g.Within depth seed n.id := by
  simp only [ball, List.mem_filterMap, h.mem_reached, h.node?_eq_some]
  constructor
  · rintro ⟨_, hnear, hn, rfl⟩
    exact ⟨hn, hnear⟩
  · rintro ⟨hn, hnear⟩
    exact ⟨n.id, hnear, hn, rfl⟩

theorem Sound.ascends_ball (h : g.Sound) :
    Ascends (fun n : Node => n.id.number) (g.ball seeds depth) := by
  refine ascends_map.1 ?_
  rw [h.map_id_ball]
  exact ascends_reached g seeds depth

end FacetedGraph.Graph
