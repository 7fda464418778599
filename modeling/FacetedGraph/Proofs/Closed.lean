import FacetedGraph.Proofs.Calls
import FacetedGraph.Proofs.Graph.Network
import FacetedGraph.Proofs.Graph.Surroundings

/-!
# No dangling edges

Every relationship is put into a row together with the nodes at its ends. So an edge of a result
never ends outside of it, with one exception: an expansion hands a relationship to the row where it
starts, and the row where it ends may be on another page.

## Main definitions

* `Row.Closed`, `Subgraph.Closed` — both ends of what is there are there too.

## Main statements

* `Subgraph.closed_ofRows` — closed rows give a closed result.
* `Graph.Sound.closed_fetchRow`, `Graph.Lightest.closed_pathRow`, `Graph.Sound.closed_influenceRow`.
* `Engine.results_closed` — the results of fetches, path searches, influence networks and
  expansions.
-/

namespace FacetedGraph

/-- Both ends of every relationship of a row are nodes of the row. -/
def Row.Closed (row : Row) : Prop :=
  ∀ r ∈ row.relationships, ∀ v, r.touches v → v ∈ row.nodes.map NodeOf.id

namespace Subgraph

/-- Both ends of every edge are nodes of the result. -/
def Closed (result : Subgraph) : Prop :=
  ∀ edge ∈ result.edges, edge.source ∈ result.nodes.map (·.id) ∧
    edge.target ∈ result.nodes.map (·.id)

theorem closed_ofRows {rows : List Row} (h : ∀ row ∈ rows, row.Closed) : (ofRows rows).Closed := by
  intro edge hedge
  obtain ⟨row, hrow, r, hr, rfl⟩ := exists_of_mem_edges hedge
  have hend {v : NodeId} (hv : r.touches v) : v.text ∈ (ofRows rows).nodes.map (·.id) :=
    mem_ids_ofRows.2 ⟨row, hrow, h row hrow r hr v hv⟩
  exact ⟨hend (by simp [Relationship.touches]), hend (by simp [Relationship.touches])⟩

theorem Closed.answering {result : Subgraph} (h : result.Closed) (f : Filter) (page : Page) :
    (result.answering f page).Closed := h

end Subgraph

namespace Graph

variable {g : Graph} {n : Node} {r : Relationship} {v : NodeId}

theorem Sound.exists_node (h : g.Sound) (hr : r ∈ g.relationships) (hv : r.touches v) :
    ∃ m ∈ g.nodes, m.id = v := by
  obtain ⟨m, hm⟩ := Option.isSome_iff_exists.1 (h.isSome_node?_of_touches hr hv)
  exact ⟨m, h.node?_eq_some.1 hm⟩

/-! ## Rows of a fetch -/

/-- What the filter admits at a node comes with the node at the other end. -/
theorem Sound.mem_ids_farNodes (h : g.Sound) {f : Filter} (hr : r ∈ g.relevant f n.id)
    (hv : r.touches v) :
    v ∈ (n :: distinctNodes (g.farNodes n.id (g.relevant f n.id))).map NodeOf.id := by
  obtain ⟨hstored, hn, -⟩ := (h.mem_relevant f).1 hr
  by_cases heq : n.id = v
  · simp [heq]
  · obtain ⟨m, hm, rfl⟩ := h.exists_node hstored hv
    have ho : r.otherEnd n.id = some m.id := Relationship.otherEnd_of_touches hn hv heq
    have hfar := h.mem_distinctNodes_farNodes.2 ⟨hm, r, hr, ho⟩
    exact List.mem_map_of_mem (List.mem_cons_of_mem _ hfar)

/-- A relationship of a neighbourhood leads at most to its rim. -/
theorem Sound.mem_ids_nodesAround (h : g.Sound) {neighborhood : Neighborhood} (hn : n ∈ g.nodes)
    (hr : r ∈ g.relationshipsAround n.id neighborhood) (hv : r.touches v) :
    v ∈ (n :: g.nodesAround n.id neighborhood).map NodeOf.id := by
  obtain ⟨hstored, u, hu, i, hi, hnear⟩ := h.mem_relationshipsAround.1 hr
  obtain ⟨m, hm, rfl⟩ := h.exists_node hstored hv
  have hrim : g.Within neighborhood.radius n.id m.id := (hnear.of_touches hstored hu hv).mono hi
  exact List.mem_map_of_mem ((h.mem_nodesAround hn).2 ⟨hm, hrim⟩)

theorem Sound.closed_fetchRow (h : g.Sound) (f : Filter) (neighborhood : Neighborhood)
    (hn : n ∈ g.nodes) : (g.fetchRow f neighborhood n).Closed := by
  intro r hr v hv
  rw [fetchRow, Row.relationships_nodeRow, rowRelationships] at hr
  rw [fetchRow, Row.nodes_nodeRow, rowNodes]
  split at hr
  case isTrue hf =>
    rw [if_pos hf]
    exact h.mem_ids_farNodes ((freshBy_sublist []).subset hr) hv
  case isFalse hf =>
    rw [if_neg hf]
    exact h.mem_ids_nodesAround hn hr hv

/-! ## Rows of a path search -/

theorem Route.mem_of_touches {source target : NodeId} {nodes : List NodeId}
    {rs : List Relationship} (h : g.Route source target nodes rs) (hr : r ∈ rs)
    (hv : r.touches v) : v ∈ nodes := by
  obtain ⟨i, hi, rfl⟩ := List.getElem_of_mem hr
  have hlength := h.length_eq
  have hbefore : i < nodes.length := by omega
  have hafter : i + 1 < nodes.length := by omega
  obtain ⟨-, ho⟩ := h.joined i rs[i] nodes[i] nodes[i + 1] (List.getElem?_eq_getElem hi)
    (List.getElem?_eq_getElem hbefore) (List.getElem?_eq_getElem hafter)
  have hends := Relationship.otherEnd_cases ho
  have hv' : v = rs[i].source ∨ v = rs[i].target := by simpa [Relationship.touches] using hv
  grind

theorem Lightest.closed_pathRow {source target : NodeId} {p : WeightedPath}
    (h : g.Lightest source target p) : (pathRow p).Closed := by
  have hnodes : (pathRow p).nodes = p.nodes := by
    simp [Row.nodes, Row.values, pathRow, Value.nodesWithin]
  have hrelationships : (pathRow p).relationships = p.relationships := by
    simp [Row.relationships, Row.values, pathRow, Value.relationshipsWithin]
  intro r hr v hv
  rw [hrelationships] at hr
  rw [hnodes]
  exact h.route.mem_of_touches hr hv

/-! ## Rows of an influence network -/

theorem Sound.closed_influenceRow (h : g.Sound) (c : Node) : (g.influenceRow c).Closed := by
  have hreached {l : Link} (hl : g.Network c.id l) : l.2 ∈ (g.influenceRow c).nodes :=
    h.mem_nodes_influenceRow.2 (.inr ⟨l.1, hl⟩)
  intro r hr v hv
  obtain ⟨n, hn⟩ := h.mem_relationships_influenceRow.1 hr
  obtain ⟨htarget, hsource⟩ := hn.ends
  have hv' : v = r.source ∨ v = r.target := by simpa [Relationship.touches] using hv
  rw [List.mem_map]
  rcases hv' with rfl | rfl
  · rcases hsource with hc | ⟨k, hk, hearlier⟩
    · exact ⟨c, h.mem_nodes_influenceRow.2 (.inl rfl), hc.symm⟩
    · exact ⟨k.2, hreached hk, hearlier.symm⟩
  · exact ⟨n, hreached hn, htarget.symm⟩

/-! ## Rows of an expansion -/

/-- The edges of an expansion start on the page, and end among what is reached. -/
theorem Sound.ends_of_mem_edges_expand (h : g.Sound) {seeds : List NodeId} {depth : Nat}
    {page : Page} {edge : EdgeView}
    (hedge : edge ∈ (Subgraph.ofRows (g.expand seeds depth page)).edges) :
    ∃ n ∈ g.ball seeds depth, n.id.text = edge.target ∧
      edge.source ∈ (Subgraph.ofRows (g.expand seeds depth page)).nodes.map (·.id) := by
  obtain ⟨m, hm, r, hr, hsource, rfl⟩ := h.mem_edges_expand.1 hedge
  obtain ⟨n, hn, htarget⟩ := h.exists_mem_ball_of_reached (h.ends_mem_reached hr).2.2
  refine ⟨n, hn, congrArg NodeId.text htarget, ?_⟩
  rw [h.nodes_expand, List.map_map]
  exact List.mem_map.2 ⟨m, hm, congrArg NodeId.text hsource.symm⟩

end Graph

/-! ## Results -/

/-- A consultant employs a field consultant, who covers a company, which owns a product, which the
consultant rates. -/
def MemoryStore.advised : MemoryStore :=
  let s := (({} : MemoryStore).createNode ["CONSULTANT"] []).1
  let s := (s.createNode ["FIELD_CONSULTANT"] []).1
  let s := (s.createNode ["COMPANY"] []).1
  let s := (s.createNode ["PRODUCT"] []).1
  let s := (s.createRelationship ⟨0⟩ ⟨1⟩ "EMPLOYS" []).1
  let s := (s.createRelationship ⟨1⟩ ⟨2⟩ "COVERS" []).1
  let s := (s.createRelationship ⟨2⟩ ⟨3⟩ "OWNS" []).1
  (s.createRelationship ⟨0⟩ ⟨3⟩ "RATES" []).1

theorem MemoryStore.healthy_advised : advised.Healthy := ⟨rfl, rfl, rfl⟩

theorem MemoryStore.built_advised : advised.graph.Built := by
  repeat' first | exact .empty | apply built_createRelationship | apply built_createNode

namespace Engine

variable {s t : MemoryStore}

theorem fetch_closed (hs : s.Healthy) (hb : s.graph.Built) (e : Engine) (request : FetchRequest) :
    ∃ result, (e.fetch request).run s = (.ok result, s) ∧ result.Closed := by
  have hrows := s.graph.evaluate_fetch request.filter request.neighborhood request.page
  refine ⟨_, fetch_ok hs e request hrows,
    .answering (Subgraph.closed_ofRows fun row hrow => ?_) _ _⟩
  obtain ⟨n, hn, rfl⟩ := List.mem_map.1 hrow
  have hn := (Page.window_sublist _ _).subset hn
  exact hb.sound.closed_fetchRow _ _ (hb.sound.mem_eligible.1 hn).1

theorem paths_closed (hs : s.Healthy) (hb : s.graph.Built) (e : Engine)
    {sources targets : List NodeId} {maxDepth : Nat} {result : PathsResult}
    (hrun : (e.paths sources targets maxDepth).run s = (.ok result, t)) : result.graph.Closed := by
  cases hfault : (EngineCall.paths sources targets maxDepth).fault? with
  | some fault => cases hrun.symm.trans (paths_refused e hfault s)
  | none =>
    have hok := paths_ok hs e sources targets (outOfRange?_eq_none.1 hfault)
    cases hrun.symm.trans hok
    refine Subgraph.closed_ofRows fun row hrow => ?_
    obtain ⟨p, hp, rfl⟩ := List.mem_map.1 hrow
    obtain ⟨_, _, _, _, hp⟩ := Graph.mem_lightestPaths.1 (List.mem_mergeSort.1 hp)
    exact (hb.sound.lightest_of_pathWithin? hp).closed_pathRow

theorem influence_closed (hs : s.Healthy) (hb : s.graph.Built) (e : Engine)
    {consultants : List NodeId} {result : InfluenceResult}
    (hrun : (e.influence consultants).run s = (.ok result, t)) : result.graph.Closed := by
  cases hfault : (EngineCall.influence consultants).fault? with
  | some fault => cases hrun.symm.trans (influence_refused e hfault s)
  | none =>
    obtain ⟨_, hok⟩ := influence_ok hs e (EngineCall.fault?_influence_eq_none.1 hfault)
    cases hrun.symm.trans hok
    refine Subgraph.closed_ofRows fun row hrow => ?_
    obtain ⟨c, -, rfl⟩ := List.mem_map.1 hrow
    exact hb.sound.closed_influenceRow c

theorem expand_closed (hs : s.Healthy) (hb : s.graph.Built) (e : Engine) {seeds : List NodeId}
    {depth : Nat} {page : Page} {result : Subgraph}
    (hrun : (e.expand seeds depth page).run s = (.ok result, t)) :
    (∀ edge ∈ result.edges, edge.source ∈ result.nodes.map (·.id)) ∧
      ∃ near : List Node,
        (∀ n, n ∈ near ↔ n ∈ s.graph.nodes ∧
          ∃ seed ∈ seeds, (s.graph.node? seed).isSome ∧ s.graph.Within depth seed n.id) ∧
        Ascends (fun n : Node => n.id.number) near ∧ (page.Covers near → result.Closed) := by
  have hsound := hb.sound
  cases hfault : (EngineCall.expand seeds depth page).fault? with
  | some fault => cases hrun.symm.trans (expand_refused e hfault s)
  | none =>
    obtain ⟨hseeds, hdepth⟩ := EngineCall.fault?_expand_eq_none.1 hfault
    cases hrun.symm.trans (expand_ok hs e hseeds hdepth page)
    refine ⟨fun edge hedge => ?_, s.graph.ball seeds depth, fun n => hsound.mem_ball,
      hsound.ascends_ball, fun hcovers edge hedge => ?_⟩
    · obtain ⟨_, -, -, hsource⟩ := hsound.ends_of_mem_edges_expand hedge
      exact hsource
    · obtain ⟨n, hn, htarget, hsource⟩ := hsound.ends_of_mem_edges_expand hedge
      refine ⟨hsource, ?_⟩
      rw [hsound.nodes_expand, hcovers, List.map_map]
      exact List.mem_map.2 ⟨n, hn, htarget⟩

/-- No edge of a result dangles: its ends are nodes of the same result. An expansion has the start
of every edge on its page, and with all that is reached on the page also the end. -/
theorem results_closed (hs : s.Healthy) (hb : s.graph.Built) (e : Engine) :
    (∀ request, ∃ result, (e.fetch request).run s = (.ok result, s) ∧ result.Closed) ∧
    (∀ sources targets maxDepth result t,
      (e.paths sources targets maxDepth).run s = (.ok result, t) → result.graph.Closed) ∧
    (∀ consultants result t,
      (e.influence consultants).run s = (.ok result, t) → result.graph.Closed) ∧
    ∀ seeds depth page result t, (e.expand seeds depth page).run s = (.ok result, t) →
      (∀ edge ∈ result.edges, edge.source ∈ result.nodes.map (·.id)) ∧
      ∃ near : List Node,
        (∀ n, n ∈ near ↔ n ∈ s.graph.nodes ∧
          ∃ seed ∈ seeds, (s.graph.node? seed).isSome ∧ s.graph.Within depth seed n.id) ∧
        Ascends (fun n : Node => n.id.number) near ∧ (page.Covers near → result.Closed) :=
  ⟨fetch_closed hs hb e, fun _ _ _ _ _ hrun => paths_closed hs hb e hrun,
    fun _ _ _ hrun => influence_closed hs hb e hrun,
    fun _ _ _ _ _ hrun => expand_closed hs hb e hrun⟩

/-- The whole network is closed. Of what is one hop around the field consultant, the page of the
field consultant alone has the edge to the company, but not the company. -/
theorem results_closed_advised :
    MemoryStore.advised.Healthy ∧ MemoryStore.advised.graph.Built ∧
      (∃ result, (fetch {} { filter := { entityKinds := [.company] }, neighborhood := .oneHop }).run
          MemoryStore.advised = (.ok result, MemoryStore.advised) ∧
        result.edges.map (·.id) = ["1", "2"] ∧ result.Closed) ∧
      (∃ result, (paths {} [⟨1⟩] [⟨3⟩] 2).run MemoryStore.advised =
          (.ok result, MemoryStore.advised) ∧
        result.graph.edges.map (·.id) = ["0", "3"] ∧ result.graph.Closed) ∧
      (∃ result, (influence {} [⟨0⟩]).run MemoryStore.advised =
          (.ok result, MemoryStore.advised) ∧
        result.graph.edges.map (·.id) = ["0", "1", "2", "3"] ∧ result.graph.Closed) ∧
      ∃ result, (expand {} [⟨1⟩] 1 ⟨1, 1⟩).run MemoryStore.advised =
          (.ok result, MemoryStore.advised) ∧
        result.nodes.map (·.id) = ["1"] ∧ result.edges.map (·.target) = ["2"] ∧
        ∀ edge ∈ result.edges, edge.source ∈ result.nodes.map (·.id) := by
  obtain ⟨hfetch, hpaths, hinfluence, hexpand⟩ :=
    results_closed MemoryStore.healthy_advised MemoryStore.built_advised {}
  refine ⟨MemoryStore.healthy_advised, MemoryStore.built_advised, ?_, ?_, ?_, ?_⟩
  · obtain ⟨result, hrun, hclosed⟩ :=
      hfetch { filter := { entityKinds := [.company] }, neighborhood := .oneHop }
    have hids : ((fetch {} { filter := { entityKinds := [.company] }, neighborhood := .oneHop }).run
        MemoryStore.advised).1.map (·.edges.map (·.id)) = .ok ["1", "2"] := by decide +kernel
    have hedges := Call.view_of_run hrun hids
    exact ⟨result, hrun, hedges, hclosed⟩
  · have hrun := paths_ok MemoryStore.healthy_advised {} [⟨1⟩] [⟨3⟩]
      (⟨by decide, by decide⟩ : 1 ≤ 2 ∧ 2 ≤ maxPathDepth)
    have hids : ((paths {} [⟨1⟩] [⟨3⟩] 2).run MemoryStore.advised).1.map
        (·.graph.edges.map (·.id)) = .ok ["0", "3"] := by decide +kernel
    have hedges := Call.view_of_run hrun hids
    exact ⟨_, hrun, hedges, hpaths _ _ _ _ _ hrun⟩
  · obtain ⟨_, hrun⟩ := influence_ok MemoryStore.healthy_advised {} (List.cons_ne_nil ⟨0⟩ [])
    have hids : ((influence {} [⟨0⟩]).run MemoryStore.advised).1.map
        (·.graph.edges.map (·.id)) = .ok ["0", "1", "2", "3"] := by decide +kernel
    have hedges := Call.view_of_run hrun hids
    exact ⟨_, hrun, hedges, hinfluence _ _ _ hrun⟩
  · have hrun := expand_ok MemoryStore.healthy_advised {} (List.cons_ne_nil ⟨1⟩ [])
      (⟨by decide, by decide⟩ : 1 ≤ 1 ∧ 1 ≤ maxExpansionDepth) ⟨1, 1⟩
    have hids : ((expand {} [⟨1⟩] 1 ⟨1, 1⟩).run MemoryStore.advised).1.map
        (fun r => (r.nodes.map (·.id), r.edges.map (·.target))) = .ok (["1"], ["2"]) := by
      decide +kernel
    have hviewed := Call.view_of_run hrun hids
    obtain ⟨hnodes, hedges⟩ := Prod.mk.inj hviewed
    exact ⟨_, hrun, hnodes, hedges, (hexpand _ _ _ _ _ hrun).1⟩

end Engine

end FacetedGraph
