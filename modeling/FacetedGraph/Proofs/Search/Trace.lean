import FacetedGraph.Proofs.Search.Course

/-!
# The way back

From a node that a search found its last steps lead back to the source, over settled nodes that
were settled earlier and earlier. So no node comes twice, the way back ends, and turned round it
is a walk that costs what is known of the node.

## Main definitions

* `Graph.Route` — the nodes that relationships lead over, one after the other.
* `Graph.Lightest` — what makes a path a lightest one.

## Main statements

* `Search.Grown.exists_trace` — every settled node has a way back.
* `Graph.Sound.lightestPath_cases` — a lightest path is found exactly where there is a walk.
-/

namespace FacetedGraph

/-! ## Routes -/

namespace Graph

/-- The relationships lead from the source to the target, each of them from one node to the
next. -/
structure Route (g : Graph) (source target : NodeId) (nodes : List NodeId)
    (rs : List Relationship) : Prop where
  length_eq : nodes.length = rs.length + 1
  first : nodes.head? = some source
  last : nodes.getLast? = some target
  joined : ∀ i r u v, rs[i]? = some r → nodes[i]? = some u → nodes[i + 1]? = some v →
    r ∈ g.relationships ∧ r.otherEnd u = some v

variable {g : Graph} {source u v : NodeId} {nodes : List NodeId} {rs : List Relationship}
  {r : Relationship}

theorem Route.nil (g : Graph) (source : NodeId) : g.Route source source [source] [] where
  length_eq := rfl
  first := rfl
  last := rfl
  joined _ _ _ _ hr := by cases hr

theorem Route.snoc (h : g.Route source u nodes rs) (hr : r ∈ g.relationships)
    (ho : r.otherEnd u = some v) : g.Route source v (nodes ++ [v]) (rs ++ [r]) where
  length_eq := by simp [h.length_eq]
  first := by
    rw [List.head?_append, h.first]
    rfl
  last := List.getLast?_concat
  joined i q a b hq ha hb := by
    have hlast : nodes[rs.length]? = some u := by
      rw [← h.last, List.getLast?_eq_getElem?, h.length_eq, Nat.add_sub_cancel]
    have hlength := h.length_eq
    rcases Nat.lt_trichotomy i rs.length with hlt | rfl | hgt
    · rw [List.getElem?_append_left hlt] at hq
      rw [List.getElem?_append_left (by omega)] at ha hb
      exact h.joined i q a b hq ha hb
    · rw [List.getElem?_concat_length] at hq
      rw [List.getElem?_append_left (by omega), hlast] at ha
      rw [← h.length_eq, List.getElem?_concat_length] at hb
      cases hq
      cases ha
      cases hb
      exact ⟨hr, ho⟩
    · rw [List.getElem?_eq_none (by simp; omega)] at hq
      cases hq

end Graph

/-! ## Back from a settled node -/

namespace Search

variable {g : Graph} {source target v : NodeId} {s : Search} {settled : List NodeId}
  {steps : List (NodeId × RelationshipId)} {rs : List Relationship}

/-- The steps back from a node, turned round: a route and a walk without repetition that costs what
is known of the node. -/
structure Trace (g : Graph) (source : NodeId) (s : Search) (v : NodeId)
    (steps : List (NodeId × RelationshipId)) (rs : List Relationship) : Prop where
  route : g.Route source v (steps.reverse.map Prod.fst ++ [v]) rs
  walk : g.Walk source rs v
  nodup : (steps.reverse.map Prod.fst ++ [v]).Nodup
  identities : steps.reverse.map Prod.snd = rs.map RelationshipOf.id
  stored : ∀ r ∈ rs, r ∈ g.relationships
  arrival : ∃ a, s.arrival? v = some a ∧ a.cost = walkCost rs

theorem Trace.nil (h : s.arrival? source = some ⟨.zero, none⟩) : s.Trace g source source [] [] where
  route := .nil g source
  walk := .nil source
  nodup := List.nodup_singleton source
  identities := rfl
  stored _ hr := by cases hr
  arrival := ⟨_, h, rfl⟩

theorem Trace.snoc {u : NodeId} {r : Relationship} {a : Arrival} (h : s.Trace g source u steps rs)
    (ha : s.arrival? u = some a) (hr : r ∈ g.relationships) (ho : r.otherEnd u = some v)
    (hv : s.arrival? v = some ⟨a.cost + r.cost, some (u, r.id)⟩)
    (hnew : v ∉ steps.reverse.map Prod.fst ++ [u]) :
    s.Trace g source v ((u, r.id) :: steps) (rs ++ [r]) where
  route := by
    rw [List.reverse_cons, List.map_append]
    exact h.route.snoc hr ho
  walk := Graph.walk_snoc.2 ⟨u, h.walk, hr, ho⟩
  nodup := by
    rw [List.reverse_cons, List.map_append, List.map_singleton]
    exact List.nodup_append.2 ⟨h.nodup, List.nodup_singleton v, fun w hw _ hv heq =>
      hnew (by rwa [← List.mem_singleton.1 hv, ← heq])⟩
  identities := by
    rw [List.reverse_cons, List.map_append, h.identities, List.map_append]
    rfl
  stored q hq := by
    rcases List.mem_append.1 hq with hq | hq
    · exact h.stored q hq
    · exact List.mem_singleton.1 hq ▸ hr
  arrival := by
    obtain ⟨b, hb, hcost⟩ := h.arrival
    obtain rfl := Option.some_inj.1 (ha.symm.trans hb)
    exact ⟨_, hv, by rw [walkCost_append_singleton, ← hcost]⟩

/-- From every settled node the last steps lead back to the source over settled nodes, in fewer
steps than there are settled nodes. -/
theorem Grown.exists_trace (hg : s.Grown g source settled)
    (hsource : s.arrival? source = some ⟨.zero, none⟩) (hv : v ∈ settled) :
    ∃ steps rs, s.Trace g source v steps rs ∧ (∀ step ∈ steps, step.1 ∈ settled) ∧
      ∀ more, s.stepsTo source (settled.length + more + 1) v = some steps := by
  induction hg generalizing v with
  | nil => cases hv
  | @cons settled w hnew harrived _ ih =>
    simp only [List.length_cons, Nat.add_right_comm settled.length 1]
    rcases List.mem_cons.1 hv with rfl | hv
    · rcases harrived with ⟨rfl, -⟩ | ⟨u, hu, a, ha, r, hr, ho, hlast⟩
      · exact ⟨[], [], .nil hsource, fun _ h => absurd h List.not_mem_nil,
          fun _ => by simp [stepsTo]⟩
      · obtain ⟨steps, rs, htrace, hsteps, hback⟩ := ih hu
        have hunseen : v ∉ steps.reverse.map Prod.fst ++ [u] := by
          simp only [List.mem_append, List.mem_map, List.mem_reverse, List.mem_singleton]
          rintro (⟨step, hstep, rfl⟩ | rfl)
          · exact hnew (hsteps step hstep)
          · exact hnew hu
        have hne : v ≠ source := by
          rintro rfl
          have hstep := congrArg Arrival.step (Option.some_inj.1 (hsource.symm.trans hlast))
          cases hstep
        refine ⟨_, _, htrace.snoc ha hr ho hlast hunseen, ?_, fun more => ?_⟩
        · intro step hstep
          rcases List.mem_cons.1 hstep with rfl | hstep
          · exact List.mem_cons_of_mem _ hu
          · exact List.mem_cons_of_mem _ (hsteps step hstep)
        · rw [stepsTo, if_neg hne, hlast]
          simp [hback more]
    · obtain ⟨steps, rs, htrace, hsteps, hback⟩ := ih hv
      exact ⟨steps, rs, htrace, fun step hstep => List.mem_cons_of_mem _ (hsteps step hstep),
        fun more => hback (more + 1)⟩

/-- At the end of a search the last steps lead back from the target, if it was found. -/
theorem Invariant.exists_trace {level : Magnitude} (hi : Invariant g source level settled [] s)
    {a : Arrival} (ha : s.arrival? target = some a) :
    ∃ steps rs, s.Trace g source target steps rs ∧ (∀ step ∈ steps, (g.node? step.1).isSome) ∧
      s.stepsTo source (g.nodes.size + 1) target = some steps := by
  -- the target takes its place among the settled nodes, unless it has one
  obtain ⟨grown, hg, htarget⟩ : ∃ grown, s.Grown g source grown ∧ target ∈ grown := by
    by_cases htarget : target ∈ settled
    · exact ⟨settled, hi.grown, htarget⟩
    · exact ⟨_, .cons htarget (hi.arrived target a ha htarget).1 hi.grown, List.mem_cons_self⟩
  have hknown : ∀ u ∈ grown, (g.node? u).isSome := by
    intro u hu
    obtain ⟨b, hb⟩ := hg.exists_arrival hu
    exact hi.known u b hb
  obtain ⟨steps, rs, htrace, hsteps, hback⟩ := hg.exists_trace hi.source_arrival htarget
  refine ⟨steps, rs, htrace, fun step hstep => hknown _ (hsteps step hstep), ?_⟩
  have hlength := (Graph.subperm_range hg.nodup hknown).length_le
  rw [List.length_map, List.length_range] at hlength
  have hfuel := hback (g.nodes.size - grown.length)
  rwa [Nat.add_sub_cancel' hlength] at hfuel

end Search

/-! ## Lightest paths -/

namespace Graph

variable {g : Graph} {source target : NodeId}

/-- A path without repetition from the source to the target, whose weight is the cost of its
relationships and which no walk undercuts. -/
structure Lightest (g : Graph) (source target : NodeId) (p : WeightedPath) : Prop where
  route : g.Route source target (p.nodes.map NodeOf.id) p.relationships
  walk : g.Walk source p.relationships target
  nodup : (p.nodes.map NodeOf.id).Nodup
  stored : ∀ n ∈ p.nodes, n ∈ g.nodes
  weight_eq : p.weight = walkCost p.relationships
  least : ∀ rs, g.Walk source rs target → p.weight ≤ walkCost rs

/-- The steps back from the target make up the path that is found. -/
theorem Sound.exists_lightestPath (h : g.Sound) {steps : List (NodeId × RelationshipId)}
    {rs : List Relationship} {a : Arrival} {n : Node}
    (ha : (g.search source target).arrival? target = some a) (hn : g.node? target = some n)
    (htrace : (g.search source target).Trace g source target steps rs)
    (hsteps : ∀ step ∈ steps, (g.node? step.1).isSome)
    (hback : (g.search source target).stepsTo source (g.nodes.size + 1) target = some steps) :
    ∃ nodes, g.lightestPath source target = some ⟨nodes, rs, a.cost⟩ ∧
      nodes.map NodeOf.id = steps.reverse.map Prod.fst ++ [target] ∧ ∀ m ∈ nodes, m ∈ g.nodes := by
  obtain ⟨hn', rfl⟩ := h.node?_eq_some.1 hn
  -- the nodes that the steps start from
  obtain ⟨before, hids, hstored⟩ : ∃ before : List Node,
      before.map NodeOf.id = steps.reverse.map Prod.fst ∧ ∀ m ∈ before, m ∈ g.nodes := by
    refine ⟨(steps.reverse.map Prod.fst).filterMap g.node?, h.map_id_filterMap_node? ?_, ?_⟩
    · intro id hid
      obtain ⟨step, hstep, rfl⟩ := List.mem_map.1 hid
      exact hsteps step (List.mem_reverse.1 hstep)
    · intro m hm
      obtain ⟨id, -, hid⟩ := List.mem_filterMap.1 hm
      exact (h.node?_eq_some.1 hid).1
  have hnodes := h.mapM_node? before hstored
  have hrelationships := h.mapM_relationship? rs htrace.stored
  rw [hids] at hnodes
  rw [← htrace.identities] at hrelationships
  refine ⟨before ++ [n], ?_, ?_, ?_⟩
  · rw [lightestPath, ha, hback]
    simp only [Option.bind_eq_bind, Option.bind_some, hnodes, hn, hrelationships]
    rfl
  · rw [List.map_append, hids, List.map_singleton]
  · intro m hm
    rcases List.mem_append.1 hm with hm | hm
    · exact hstored m hm
    · exact List.mem_singleton.1 hm ▸ hn'

/-- A lightest path is found exactly where there is a walk. -/
theorem Sound.lightestPath_cases (h : g.Sound) (hsource : (g.node? source).isSome)
    (target : NodeId) :
    (∃ p, g.lightestPath source target = some p ∧ g.Lightest source target p) ∨
      g.lightestPath source target = none ∧ ∀ rs, ¬ g.Walk source rs target := by
  obtain ⟨level, settled, hi, hend⟩ := Search.invariant_search target h hsource
  cases ha : (g.search source target).arrival? target with
  | none =>
    refine .inr ⟨?_, fun rs hw => ?_⟩
    · rw [lightestPath, ha]
      rfl
    · obtain ⟨a, hsome, -⟩ := hi.cost_le_walkCost h hend hw
      cases ha.symm.trans hsome
  | some a =>
    obtain ⟨n, hn⟩ := Option.isSome_iff_exists.1 (hi.known target a ha)
    obtain ⟨steps, rs, htrace, hsteps, hback⟩ := hi.exists_trace ha
    obtain ⟨nodes, hpath, hids, hstored⟩ := h.exists_lightestPath ha hn htrace hsteps hback
    obtain ⟨b, hb, hcost⟩ := htrace.arrival
    obtain rfl := Option.some_inj.1 (ha.symm.trans hb)
    refine .inl ⟨_, hpath, hids ▸ htrace.route, htrace.walk, hids ▸ htrace.nodup, hstored, hcost,
      fun qs hw => ?_⟩
    obtain ⟨c, hc, hle⟩ := hi.cost_le_walkCost h hend hw
    obtain rfl := Option.some_inj.1 (ha.symm.trans hc)
    exact hle

end Graph

end FacetedGraph
