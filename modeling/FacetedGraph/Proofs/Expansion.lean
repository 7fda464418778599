import FacetedGraph.Proofs.Graph.Tree
import FacetedGraph.Proofs.Result.Elements
import FacetedGraph.Proofs.Store.Healthy

/-!
# Bounded expansion

An expansion over a healthy store gives the nodes within the hops asked for of some seed, cut to
the page. Where the page has room for all of them, its relationships are the whole tree of the
expansion.

## Main definitions

* `Graph.branches` — the tree of an expansion, handed out to the nodes where it branches.

## Main statements

* `Graph.Sound.expand_eq` — the rows of an expansion are about the page of the ball.
* `Graph.Sound.nodes_expand`, `Graph.Sound.mem_edges_expand` — what they amount to.
* `Graph.Sound.branches_perm` — nothing of the tree is lost.
* `Engine.expand_ball` — the nodes of an expansion.
* `Engine.expand_tree` — the relationships of an expansion.
-/

namespace FacetedGraph

namespace Graph

variable {g : Graph} {seeds : List NodeId} {depth : Nat} {page : Page}

/-- The page is cut out of the identities, and may as well be cut out of the nodes. -/
theorem Sound.expand_eq (h : g.Sound) :
    g.expand seeds depth page = (page.window (g.ball seeds depth)).map fun n =>
      nodeRow n ((g.tree seeds depth).filter (·.source == n.id)) [] := by
  have hstored : ∀ n ∈ page.window (g.ball seeds depth), n ∈ g.nodes := fun n hn =>
    (h.mem_ball.1 ((page.window_sublist _).subset hn)).1
  rw [expand, ← h.map_id_ball, page.window_map, h.filterMap_node? _ hstored]

theorem Sound.nodes_expand (h : g.Sound) :
    (Subgraph.ofRows (g.expand seeds depth page)).nodes =
      (page.window (g.ball seeds depth)).map NodeView.ofNode := by
  rw [h.expand_eq, nodes_ofRows_ascending (h.ascends_ball.sublist (page.window_sublist _))]

/-- A page has the relationships of the tree that start on it. -/
theorem Sound.mem_edges_expand (h : g.Sound) {view : EdgeView} :
    view ∈ (Subgraph.ofRows (g.expand seeds depth page)).edges ↔
      ∃ n ∈ page.window (g.ball seeds depth), ∃ r ∈ g.tree seeds depth,
        r.source = n.id ∧ EdgeView.ofRelationship r = view := by
  have hrows : ∀ row ∈ g.expand seeds depth page, row.StoredIn g := by
    intro row hrow
    rw [h.expand_eq] at hrow
    obtain ⟨n, hn, rfl⟩ := List.mem_map.1 hrow
    have hn := h.mem_ball.1 ((page.window_sublist _).subset hn)
    refine ⟨by simpa using hn.1, fun r hr => ?_⟩
    rw [Row.relationships_nodeRow] at hr
    exact (h.ends_mem_reached (List.mem_filter.1 hr).1).1
  rw [h.mem_edges_ofRows hrows, h.expand_eq]
  simp [and_assoc]

def branches (g : Graph) (seeds : List NodeId) (depth : Nat) : List Relationship :=
  firstBy RelationshipOf.id
    ((g.ball seeds depth).flatMap fun n => (g.tree seeds depth).filter (·.source == n.id))

theorem Sound.exists_mem_ball_of_reached (h : g.Sound) {v : NodeId}
    (hv : v ∈ g.reached seeds depth) : ∃ n ∈ g.ball seeds depth, n.id = v := by
  rwa [← h.map_id_ball, List.mem_map] at hv

/-- Every relationship of the tree starts at a node that is reached, so none is lost when the tree
is handed out. -/
theorem Sound.branches_perm (h : g.Sound) :
    (g.branches seeds depth).Perm (g.tree seeds depth) := by
  have hall {r : Relationship} : r ∈ (g.ball seeds depth).flatMap (fun n =>
      (g.tree seeds depth).filter (·.source == n.id)) ↔ r ∈ g.tree seeds depth := by
    simp only [List.mem_flatMap, List.mem_filter, beq_iff_eq]
    constructor
    · rintro ⟨_, _, hr, _⟩
      exact hr
    · intro hr
      obtain ⟨n, hn, heq⟩ := h.exists_mem_ball_of_reached (h.ends_mem_reached hr).2.1
      exact ⟨n, hn, hr, heq.symm⟩
  have hstored {r : Relationship} (hr : r ∈ g.tree seeds depth) : r ∈ g.relationships :=
    (h.ends_mem_reached hr).1
  refine (List.perm_ext_iff_of_nodup (.of_map _ (nodup_map_firstBy _ _))
    (.of_map _ (g.nodup_map_id_tree seeds depth))).2 fun r => ?_
  rw [mem_firstBy, hall]
  intro r hr q hq heq
  exact h.relationship_ext (hstored (hall.1 hr)) (hstored (hall.1 hq)) heq

end Graph

namespace Engine

variable {s : MemoryStore} {seeds : List NodeId} {depth : Nat}

theorem expand_ok (hs : s.Healthy) (e : Engine) (hseeds : seeds ≠ [])
    (hdepth : 1 ≤ depth ∧ depth ≤ maxExpansionDepth) (page : Page) :
    (e.expand seeds depth page).run s =
      (.ok (Subgraph.ofRows (s.graph.expand seeds depth page)), s) := by
  have hvalidate : (Pattern.expansion seeds depth).validate = .ok () := if_pos hdepth
  have hrun := hs.run_plan e (Plan.check_unfiltered hvalidate page)
  have hsome : ¬ seeds.isEmpty := by rwa [List.isEmpty_iff]
  rw [expand, if_neg hsome, Call.run_bind_ok hrun]
  rfl

/-- An expansion gives the nodes within the depth of a seed that the graph has, in ascending order
and cut to the page. -/
theorem expand_ball (hs : s.Healthy) (hb : s.graph.Built) (e : Engine) (hseeds : seeds ≠ [])
    (hdepth : 1 ≤ depth ∧ depth ≤ maxExpansionDepth) (page : Page) :
    ∃ (result : Subgraph) (near : List Node),
      (e.expand seeds depth page).run s = (.ok result, s) ∧
      (∀ n, n ∈ near ↔ n ∈ s.graph.nodes ∧
        ∃ seed ∈ seeds, (s.graph.node? seed).isSome ∧ s.graph.Within depth seed n.id) ∧
      Ascends (fun n : Node => n.id.number) near ∧
      result.nodes = ((near.drop page.offset).take page.limit).map NodeView.ofNode := by
  have hsound := hb.sound
  refine ⟨_, s.graph.ball seeds depth, expand_ok hs e hseeds hdepth page,
    fun n => hsound.mem_ball, hsound.ascends_ball, ?_⟩
  exact hsound.nodes_expand

theorem expand_sample :
    MemoryStore.sample.Healthy ∧ MemoryStore.sample.graph.Built ∧
      ([⟨2⟩, ⟨9⟩, ⟨2⟩] : List NodeId) ≠ [] ∧ (1 ≤ 1 ∧ 1 ≤ maxExpansionDepth) ∧
      ∃ result, (expand {} [⟨2⟩, ⟨9⟩, ⟨2⟩] 1 ⟨2, 1⟩).run MemoryStore.sample =
          (.ok result, MemoryStore.sample) ∧
        result.nodes.map (·.id) = ["1", "2"] := by
  have hseeds : ([⟨2⟩, ⟨9⟩, ⟨2⟩] : List NodeId) ≠ [] := by decide
  have hdepth : 1 ≤ 1 ∧ 1 ≤ maxExpansionDepth := by decide
  refine ⟨MemoryStore.healthy_sample, MemoryStore.built_sample, hseeds, hdepth, ?_⟩
  obtain ⟨result, near, hrun, -⟩ := expand_ball MemoryStore.healthy_sample
    MemoryStore.built_sample {} hseeds hdepth ⟨2, 1⟩
  have hids : ((expand {} [⟨2⟩, ⟨9⟩, ⟨2⟩] 1 ⟨2, 1⟩).run MemoryStore.sample).1.map
      (·.nodes.map (·.id)) = .ok ["1", "2"] := by decide +kernel
  have hnodes := Call.view_of_run hrun hids
  exact ⟨result, hrun, hnodes⟩

/-- Where the page has room for all that is reached, the relationships of an expansion connect it.
Each node is joined to a seed over them by a walk, and no walk from any seed to the node is
shorter. With one seed in the graph there is one relationship less than nodes, so that they form a
spanning tree. -/
theorem expand_tree (hs : s.Healthy) (hb : s.graph.Built) (e : Engine) (hseeds : seeds ≠ [])
    (hdepth : 1 ≤ depth ∧ depth ≤ maxExpansionDepth) {page : Page}
    (hpage : page.window (s.graph.ball seeds depth) = s.graph.ball seeds depth) :
    ∃ (result : Subgraph) (nodes : List Node) (edges : List Relationship),
      (e.expand seeds depth page).run s = (.ok result, s) ∧
      result.nodes = nodes.map NodeView.ofNode ∧
      result.edges = edges.map EdgeView.ofRelationship ∧
      (∀ n, n ∈ nodes ↔ n ∈ s.graph.nodes ∧
        ∃ seed ∈ seeds, (s.graph.node? seed).isSome ∧ s.graph.Within depth seed n.id) ∧
      (edges.map RelationshipOf.id).Nodup ∧
      (∀ n ∈ nodes, ∃ seed ∈ seeds, (s.graph.node? seed).isSome ∧
        ∃ rs, s.graph.Walk seed rs n.id ∧ rs ⊆ edges ∧
          ∀ other ∈ seeds, (s.graph.node? other).isSome → ∀ qs, s.graph.Walk other qs n.id →
            rs.length ≤ qs.length) ∧
      (∀ r ∈ edges, r ∈ s.graph.relationships ∧
        (∃ m ∈ nodes, m.id = r.source) ∧ ∃ n ∈ nodes, n.id = r.target) ∧
      ∀ seed ∈ seeds, (s.graph.node? seed).isSome →
        (∀ other ∈ seeds, (s.graph.node? other).isSome → other = seed) →
        result.summary.totalEdges + 1 = result.summary.totalNodes := by
  have hsound := hb.sound
  let ball := s.graph.ball seeds depth
  let edges := s.graph.branches seeds depth
  let result := Subgraph.ofRows (s.graph.expand seeds depth page)
  have hperm : edges.Perm (s.graph.tree seeds depth) := hsound.branches_perm
  have hnodes : result.nodes = ball.map NodeView.ofNode := by
    simp only [result, hsound.nodes_expand, hpage, ball]
  have hedges : result.edges = edges.map EdgeView.ofRelationship := by
    simp only [result, hsound.expand_eq, hpage]
    exact edges_ofRows _ _ _ _
  refine ⟨result, ball, edges, expand_ok hs e hseeds hdepth page, hnodes, hedges,
    fun n => hsound.mem_ball, nodup_map_firstBy _ _, ?_, ?_, ?_⟩
  · intro n hn
    have hreached : n.id ∈ s.graph.reached seeds depth := by
      rw [← hsound.map_id_ball]
      exact List.mem_map_of_mem hn
    obtain ⟨seed, hseed, hpresent, rs, hw, hrs, hshortest⟩ :=
      hsound.exists_nearest_route hreached
    exact ⟨seed, hseed, hpresent, rs, hw, fun r hr => hperm.mem_iff.2 (hrs hr), hshortest⟩
  · intro r hr
    obtain ⟨hr, hsource, htarget⟩ := hsound.ends_mem_reached (hperm.mem_iff.1 hr)
    exact ⟨hr, hsound.exists_mem_ball_of_reached hsource,
      hsound.exists_mem_ball_of_reached htarget⟩
  · intro seed hseed hpresent honly
    have hlength := hsound.length_tree depth hseed hpresent honly
    rw [← hsound.map_id_ball, List.length_map, ← hperm.length_eq] at hlength
    change result.edges.length + 1 = result.nodes.length
    rw [hnodes, hedges, List.length_map, List.length_map]
    exact hlength

theorem expand_tree_sample :
    MemoryStore.sample.Healthy ∧ MemoryStore.sample.graph.Built ∧
      ([⟨2⟩, ⟨9⟩, ⟨2⟩] : List NodeId) ≠ [] ∧ (1 ≤ 2 ∧ 2 ≤ maxExpansionDepth) ∧
      (⟨3, 0⟩ : Page).window (MemoryStore.sample.graph.ball [⟨2⟩, ⟨9⟩, ⟨2⟩] 2) =
        MemoryStore.sample.graph.ball [⟨2⟩, ⟨9⟩, ⟨2⟩] 2 ∧
      ∃ result, (expand {} [⟨2⟩, ⟨9⟩, ⟨2⟩] 2 ⟨3, 0⟩).run MemoryStore.sample =
          (.ok result, MemoryStore.sample) ∧
        result.nodes.map (·.id) = ["0", "1", "2"] ∧ result.edges.map (·.id) = ["1", "3"] ∧
        result.summary.totalEdges + 1 = result.summary.totalNodes := by
  have hseeds : ([⟨2⟩, ⟨9⟩, ⟨2⟩] : List NodeId) ≠ [] := by decide
  have hdepth : 1 ≤ 2 ∧ 2 ≤ maxExpansionDepth := by decide
  have hpage : (⟨3, 0⟩ : Page).window (MemoryStore.sample.graph.ball [⟨2⟩, ⟨9⟩, ⟨2⟩] 2) =
      MemoryStore.sample.graph.ball [⟨2⟩, ⟨9⟩, ⟨2⟩] 2 :=
    Page.window_eq_self rfl (by decide +kernel)
  refine ⟨MemoryStore.healthy_sample, MemoryStore.built_sample, hseeds, hdepth, hpage, ?_⟩
  obtain ⟨result, _, _, hrun, -, -, -, -, -, -, hcount⟩ := expand_tree MemoryStore.healthy_sample
    MemoryStore.built_sample {} hseeds hdepth hpage
  have hids : ((expand {} [⟨2⟩, ⟨9⟩, ⟨2⟩] 2 ⟨3, 0⟩).run MemoryStore.sample).1.map
      (fun r => (r.nodes.map (·.id), r.edges.map (·.id))) =
      .ok (["0", "1", "2"], ["1", "3"]) := by decide +kernel
  have hviewed := Call.view_of_run hrun hids
  obtain ⟨hnodes, hedges⟩ := Prod.mk.inj hviewed
  exact ⟨result, hrun, hnodes, hedges, hcount ⟨2⟩ (by decide) (by decide +kernel)
    (by decide +kernel)⟩

end Engine

end FacetedGraph
