import FacetedGraph.Proofs.Graph.Reach
import Mathlib.Data.Nat.Find

/-!
# The tree of an expansion

A seed reaches every node over one relationship, from a node that was reached one hop earlier. So
the relationships over which nodes were reached hold a shortest walk to each of them. None of them
leads to two nodes: one end was visited before, and both are afterwards.

## Main definitions

* `Graph.Routed` — a shortest walk to a node stays on given relationships.

## Main statements

* `Graph.Sound.routed_reachFrom` — a shortest walk leads to all that a seed reaches.
* `Graph.nodup_reach` — no node is reached twice, and no relationship leads to two nodes.
* `Graph.Sound.mem_tree`, `Graph.Sound.ends_mem_reached` — the trees of several seeds together.
* `Graph.Sound.exists_nearest_route` — a shortest walk from the nearest seed.
* `Graph.Sound.length_tree` — the tree of a single seed has one relationship less than nodes.
-/

namespace FacetedGraph

namespace Graph

variable {g : Graph} {seed u v : NodeId} {visited frontier : List NodeId} {i depth : Nat}
  {tree more : List Relationship} {fresh : List (Relationship × NodeId)}

/-! ## Shortest walks over the tree -/

theorem AtDistance.le_length {rs : List Relationship} (h : g.AtDistance i u v)
    (hw : g.Walk u rs v) : i ≤ rs.length := by
  by_contra hshort
  exact h.2 rs.length (by omega) ⟨rs, hw, Nat.le_refl _⟩

def Routed (g : Graph) (tree : List Relationship) (seed v : NodeId) : Prop :=
  ∃ rs, g.Walk seed rs v ∧ rs ⊆ tree ∧ ∀ qs, g.Walk seed qs v → rs.length ≤ qs.length

theorem Routed.mono (h : g.Routed tree seed v) (hsub : tree ⊆ more) : g.Routed more seed v := by
  obtain ⟨rs, hw, hrs, hshortest⟩ := h
  exact ⟨rs, hw, fun r hr => hsub (hrs hr), hshortest⟩

/-- One more relationship of the tree leads to what is one hop further. -/
theorem Routed.snoc {r : Relationship} (h : g.Routed tree seed u) (hu : g.AtDistance i seed u)
    (hr : r ∈ g.relationships) (htree : r ∈ tree) (ho : r.otherEnd u = some v)
    (hv : g.AtDistance (i + 1) seed v) : g.Routed tree seed v := by
  obtain ⟨rs, hw, hrs, hshortest⟩ := h
  obtain ⟨qs, hqs, hlen⟩ := hu.1
  refine ⟨rs ++ [r], walk_snoc.2 ⟨u, hw, hr, ho⟩, ?_, fun ps hps => ?_⟩
  · simpa using ⟨hrs, htree⟩
  · have hbefore := hshortest qs hqs
    have hafter := hv.le_length hps
    rw [List.length_append, List.length_singleton]
    omega

/-- What is new to a level is reached from the level before. -/
theorem exists_step_of_mem_fresh {p : Relationship × NodeId}
    (hfresh : fresh = freshBy Prod.snd visited (frontier.flatMap g.steps)) (hp : p ∈ fresh) :
    ∃ u ∈ frontier, p ∈ g.steps u := by
  subst hfresh
  exact List.mem_flatMap.1 ((freshBy_sublist visited).subset hp)

theorem Level.routed_next (hl : g.Level seed i visited frontier) (h : g.Sound)
    (hfresh : fresh = freshBy Prod.snd visited (frontier.flatMap g.steps))
    (hrouted : ∀ v ∈ visited, g.Routed tree seed v) :
    ∀ v ∈ visited ++ fresh.map Prod.snd, g.Routed (tree ++ fresh.map Prod.fst) seed v := by
  intro v hv
  rcases List.mem_append.1 hv with hv | hv
  · exact (hrouted v hv).mono (List.subset_append_left _ _)
  · have hfar : g.AtDistance (i + 1) seed v := hl.mem_fresh h |>.1 (hfresh ▸ hv)
    obtain ⟨⟨r, w⟩, hp, rfl⟩ := List.mem_map.1 hv
    obtain ⟨u, hu, hstep⟩ := exists_step_of_mem_fresh hfresh hp
    obtain ⟨hr, ho⟩ := h.mem_steps.1 hstep
    have hat : g.AtDistance i seed u := (hl.frontier u).1 hu
    have hvisited : u ∈ visited := (hl.visited u).2 hat.1
    have htree : r ∈ tree ++ fresh.map Prod.fst :=
      List.mem_append_right _ (List.mem_map_of_mem (f := Prod.fst) hp)
    exact ((hrouted u hvisited).mono (List.subset_append_left _ _)).snoc hat hr htree ho hfar

/-- From a level on, all that is reached has a shortest walk over what was and is gathered. -/
theorem Level.routed_reach (hl : g.Level seed i visited frontier) (h : g.Sound)
    (hrouted : ∀ v ∈ visited, g.Routed tree seed v) :
    ∀ v ∈ visited ++ (g.reach depth visited frontier).map Prod.snd,
      g.Routed (tree ++ (g.reach depth visited frontier).map Prod.fst) seed v := by
  induction depth generalizing i visited frontier tree with
  | zero => simpa [reach] using hrouted
  | succ depth ih =>
    have hnext := ih (hl.next h rfl) (hl.routed_next h rfl hrouted)
    simpa only [reach, List.map_append, List.append_assoc] using hnext

theorem Sound.routed_reachFrom (h : g.Sound)
    (hv : v ∈ seed :: (g.reachFrom depth seed).map Prod.snd) :
    g.Routed ((g.reachFrom depth seed).map Prod.fst) seed v := by
  have hstart : ∀ v ∈ [seed], g.Routed [] seed v := by
    intro v hv
    obtain rfl := List.mem_singleton.1 hv
    exact ⟨[], .nil v, List.nil_subset _, fun qs _ => Nat.zero_le _⟩
  exact (Level.start g seed).routed_reach h hstart v hv

/-! ## One relationship for each node -/

/-- What a search reaches is new to it, and lies next to what was visited or reached before. -/
theorem Sound.mem_reach (h : g.Sound) (hsub : frontier ⊆ visited) {p : Relationship × NodeId}
    (hp : p ∈ g.reach depth visited frontier) :
    p.1 ∈ g.relationships ∧ p.2 ∉ visited ∧
      ∃ u ∈ visited ++ (g.reach depth visited frontier).map Prod.snd,
        p.1.otherEnd u = some p.2 := by
  induction depth generalizing visited frontier with
  | zero => simp [reach] at hp
  | succ depth ih =>
    rw [reach, List.map_append, ← List.append_assoc]
    rcases List.mem_append.1 hp with hp | hp
    · obtain ⟨u, hu, hstep⟩ := exists_step_of_mem_fresh rfl hp
      obtain ⟨hr, ho⟩ := h.mem_steps.1 hstep
      have hnew := (mem_map_freshBy.1 (List.mem_map_of_mem hp)).2
      exact ⟨hr, hnew, u, by simp [hsub hu], ho⟩
    · obtain ⟨hr, hnew, hnext⟩ := ih (List.subset_append_right _ _) hp
      exact ⟨hr, fun hv => hnew (List.mem_append_left _ hv), hnext⟩

/-- A relationship leads from what is visited to at most one node that is not. -/
theorem Sound.nodup_map_fst_fresh (h : g.Sound) (hsub : frontier ⊆ visited)
    (hfresh : fresh = freshBy Prod.snd visited (frontier.flatMap g.steps)) :
    (fresh.map Prod.fst).Nodup := by
  have hnodup : (fresh.map Prod.snd).Nodup := hfresh ▸ nodup_map_freshBy visited
  refine (List.Nodup.of_map _ hnodup).map_on fun p hp q hq heq => ?_
  have hends {p : Relationship × NodeId} (hp : p ∈ fresh) :
      p.2 ∉ visited ∧ ∃ u ∈ visited, p.1.otherEnd u = some p.2 := by
    obtain ⟨u, hu, hstep⟩ := exists_step_of_mem_fresh hfresh hp
    subst hfresh
    exact ⟨(mem_map_freshBy.1 (List.mem_map_of_mem hp)).2, u, hsub hu, (h.mem_steps.1 hstep).2⟩
  obtain ⟨hp, u, hu, hou⟩ := hends hp
  obtain ⟨hq, w, hw, how⟩ := hends hq
  have hsame : p.2 = q.2 := by
    have hpends := Relationship.otherEnd_cases hou
    have hqends := Relationship.otherEnd_cases how
    grind
  exact Prod.ext heq hsame

theorem Sound.nodup_reach (h : g.Sound) (hsub : frontier ⊆ visited) :
    ((g.reach depth visited frontier).map Prod.fst).Nodup ∧
      ((g.reach depth visited frontier).map Prod.snd).Nodup := by
  induction depth generalizing visited frontier with
  | zero => simp [reach]
  | succ depth ih =>
    let fresh := freshBy Prod.snd visited (frontier.flatMap g.steps)
    let later := g.reach depth (visited ++ fresh.map Prod.snd) (fresh.map Prod.snd)
    have hlater {p : Relationship × NodeId} (hp : p ∈ later) :
        p.2 ∉ visited ++ fresh.map Prod.snd ∧ ∃ u, p.1.otherEnd u = some p.2 := by
      obtain ⟨-, hnew, u, -, ho⟩ := h.mem_reach (List.subset_append_right _ _) hp
      exact ⟨hnew, u, ho⟩
    obtain ⟨hrelationships, hnodes⟩ := ih (List.subset_append_right visited (fresh.map Prod.snd))
    change ((fresh ++ later).map Prod.fst).Nodup ∧ ((fresh ++ later).map Prod.snd).Nodup
    rw [List.map_append, List.map_append]
    constructor
    · refine (h.nodup_map_fst_fresh hsub rfl).append hrelationships fun r hr hr' => ?_
      obtain ⟨⟨_, v⟩, hp, rfl⟩ := List.mem_map.1 hr
      obtain ⟨⟨_, w⟩, hq, rfl⟩ := List.mem_map.1 hr'
      obtain ⟨u, hu, hstep⟩ := exists_step_of_mem_fresh rfl hp
      obtain ⟨hnew, _, how⟩ := hlater hq
      -- both ends of a relationship that led to a node are visited by now
      have hends := Relationship.otherEnd_cases (h.mem_steps.1 hstep).2
      have hlast := Relationship.otherEnd_cases how
      have hu' : u ∈ visited ++ fresh.map Prod.snd := List.mem_append_left _ (hsub hu)
      have hv' : v ∈ visited ++ fresh.map Prod.snd :=
        List.mem_append_right _ (List.mem_map_of_mem (f := Prod.snd) hp)
      grind
    · refine (nodup_map_freshBy visited).append hnodes fun v hv hv' => ?_
      obtain ⟨p, hp, rfl⟩ := List.mem_map.1 hv'
      exact (hlater hp).1 (List.mem_append_right _ hv)

/-- A seed is not reached again. -/
theorem Sound.nodup_reachFrom (h : g.Sound) (depth : Nat) (seed : NodeId) :
    ((g.reachFrom depth seed).map Prod.fst).Nodup ∧
      (seed :: (g.reachFrom depth seed).map Prod.snd).Nodup := by
  obtain ⟨hrelationships, hnodes⟩ : ((g.reachFrom depth seed).map Prod.fst).Nodup ∧
      ((g.reachFrom depth seed).map Prod.snd).Nodup := h.nodup_reach (List.Subset.refl [seed])
  refine ⟨hrelationships, List.nodup_cons.2 ⟨fun hseed => ?_, hnodes⟩⟩
  obtain ⟨p, hp, heq⟩ := List.mem_map.1 hseed
  exact (h.mem_reach (List.Subset.refl [seed]) hp).2.1 (heq ▸ List.mem_singleton_self _)

/-! ## Several seeds -/

variable {seeds : List NodeId} {r : Relationship}

theorem mem_presentSeeds : seed ∈ g.presentSeeds seeds ↔ seed ∈ seeds ∧ (g.node? seed).isSome :=
  List.mem_filter

theorem Sound.relationships_of_reachFrom (h : g.Sound)
    (hr : r ∈ (g.reachFrom depth seed).map Prod.fst) : r ∈ g.relationships := by
  obtain ⟨p, hp, rfl⟩ := List.mem_map.1 hr
  exact (h.mem_reach (List.Subset.refl [seed]) hp).1

theorem Sound.mem_tree (h : g.Sound) :
    r ∈ g.tree seeds depth ↔
      ∃ seed ∈ seeds, (g.node? seed).isSome ∧ r ∈ (g.reachFrom depth seed).map Prod.fst := by
  have hstored {r : Relationship} (hr : r ∈ (g.presentSeeds seeds).flatMap fun s =>
      (g.reachFrom depth s).map Prod.fst) : r ∈ g.relationships := by
    obtain ⟨seed, -, hr⟩ := List.mem_flatMap.1 hr
    exact h.relationships_of_reachFrom hr
  rw [tree, mem_ascendingBy fun r hr q hq heq =>
    h.relationship_ext (hstored hr) (hstored hq) (RelationshipId.number_injective heq)]
  simp only [List.mem_flatMap, mem_presentSeeds, and_assoc]

theorem nodup_map_id_tree (g : Graph) (seeds : List NodeId) (depth : Nat) :
    ((g.tree seeds depth).map RelationshipOf.id).Nodup := by
  have hnumbers := (ascends_ascendingBy (fun r : Relationship => r.id.number)
    ((g.presentSeeds seeds).flatMap fun s => (g.reachFrom depth s).map Prod.fst)).nodup_map
  refine .of_map RelationshipId.number ?_
  rwa [List.map_map]

/-- The tree lies among what is reached. -/
theorem Sound.ends_mem_reached (h : g.Sound) (hr : r ∈ g.tree seeds depth) :
    r ∈ g.relationships ∧ r.source ∈ g.reached seeds depth ∧ r.target ∈ g.reached seeds depth := by
  obtain ⟨seed, hseed, hpresent, hr⟩ := h.mem_tree.1 hr
  obtain ⟨⟨r, v⟩, hp, rfl⟩ := List.mem_map.1 hr
  obtain ⟨hr, -, u, hu, ho⟩ := h.mem_reach (List.Subset.refl [seed]) hp
  dsimp only at hr ho ⊢
  have hreached {w : NodeId} (hw : w ∈ seed :: (g.reachFrom depth seed).map Prod.snd) :
      w ∈ g.reached seeds depth :=
    h.mem_reached.2 ⟨seed, hseed, hpresent, h.mem_reachFrom.1 hw⟩
  have hv : v ∈ seed :: (g.reachFrom depth seed).map Prod.snd :=
    List.mem_cons_of_mem _ (List.mem_map_of_mem (f := Prod.snd) hp)
  refine ⟨hr, ?_⟩
  rcases Relationship.otherEnd_cases ho with ⟨rfl, rfl⟩ | ⟨rfl, rfl⟩
  · exact ⟨hreached hu, hreached hv⟩
  · exact ⟨hreached hv, hreached hu⟩

/-- The tree holds a shortest walk to each node reached, from the seed that is nearest to it. -/
theorem Sound.exists_nearest_route (h : g.Sound) (hv : v ∈ g.reached seeds depth) :
    ∃ seed ∈ seeds, (g.node? seed).isSome ∧ ∃ rs, g.Walk seed rs v ∧ rs ⊆ g.tree seeds depth ∧
      ∀ other ∈ seeds, (g.node? other).isSome → ∀ qs, g.Walk other qs v →
        rs.length ≤ qs.length := by
  classical
  have hnear : ∃ k, ∃ seed ∈ seeds, (g.node? seed).isSome ∧ g.Within k seed v :=
    ⟨depth, h.mem_reached.1 hv⟩
  -- the fewest hops that lead to the node from any seed
  obtain ⟨seed, hseed, hpresent, hwithin⟩ := Nat.find_spec hnear
  have hdepth : Nat.find hnear ≤ depth := Nat.find_min' hnear (h.mem_reached.1 hv)
  obtain ⟨rs, hw, hrs, hshortest⟩ :=
    h.routed_reachFrom (h.mem_reachFrom.2 (hwithin.mono hdepth))
  refine ⟨seed, hseed, hpresent, rs, hw,
    fun r hr => h.mem_tree.2 ⟨seed, hseed, hpresent, hrs hr⟩, fun other hother hsome qs hqs => ?_⟩
  have hfewest : Nat.find hnear ≤ qs.length :=
    Nat.find_min' hnear ⟨other, hother, hsome, qs, hqs, Nat.le_refl _⟩
  obtain ⟨ps, hps, hlen⟩ := hwithin
  calc
    rs.length ≤ ps.length := hshortest ps hps
    _ ≤ Nat.find hnear := hlen
    _ ≤ qs.length := hfewest

/-! ## A single seed -/

theorem Sound.length_tree (h : g.Sound) (depth : Nat) (hseed : seed ∈ seeds)
    (hpresent : (g.node? seed).isSome)
    (honly : ∀ other ∈ seeds, (g.node? other).isSome → other = seed) :
    (g.tree seeds depth).length + 1 = (g.reached seeds depth).length := by
  obtain ⟨hrelationships, hnodes⟩ := h.nodup_reachFrom depth seed
  have htree : (g.tree seeds depth).Perm ((g.reachFrom depth seed).map Prod.fst) := by
    refine (List.perm_ext_iff_of_nodup (.of_map _ (g.nodup_map_id_tree seeds depth))
      hrelationships).2 fun r => ?_
    rw [h.mem_tree]
    constructor
    · rintro ⟨other, hother, hsome, hr⟩
      rwa [honly other hother hsome] at hr
    · exact fun hr => ⟨seed, hseed, hpresent, hr⟩
  have hreached : (g.reached seeds depth).Perm (seed :: (g.reachFrom depth seed).map Prod.snd) := by
    refine (List.perm_ext_iff_of_nodup (.of_map _ (g.ascends_reached seeds depth).nodup_map)
      hnodes).2 fun v => ?_
    rw [h.mem_reached, h.mem_reachFrom]
    constructor
    · rintro ⟨other, hother, hsome, hv⟩
      rwa [honly other hother hsome] at hv
    · exact fun hv => ⟨seed, hseed, hpresent, hv⟩
  rw [htree.length_eq, hreached.length_eq, List.length_cons, List.length_map, List.length_map]

end Graph

end FacetedGraph
