import FacetedGraph.Proofs.Graph.Surroundings

/-!
# Neighbourhoods of a page

A fetch over nodes alone gives, around the subjects on its page, the ball that the neighbourhood
asks for: the nodes within so many hops of some subject, and the relationships with an end that is
nearer than that.

## Main definitions

* `Graph.pageNodes`, `Graph.pageRelationships` — what the rows of a page list, each once.

## Main statements

* `Graph.Sound.mem_pageNodes`, `Graph.Sound.mem_pageRelationships`.
* `Engine.fetch_ball` — the nodes and relationships of a fetch.
-/

namespace FacetedGraph

namespace Graph

variable {g : Graph} {neighborhood : Neighborhood} {window : List Node}

/-- The nodes of a page with their neighbourhoods, each once. -/
def pageNodes (g : Graph) (neighborhood : Neighborhood) (window : List Node) : List Node :=
  distinctNodes (window.flatMap fun n => n :: g.nodesAround n.id neighborhood)

def pageRelationships (g : Graph) (neighborhood : Neighborhood) (window : List Node) :
    List Relationship :=
  distinctRelationships (window.flatMap fun n => g.relationshipsAround n.id neighborhood)

theorem Sound.mem_pageNodes (h : g.Sound) (hwindow : ∀ n ∈ window, n ∈ g.nodes) {m : Node} :
    m ∈ g.pageNodes neighborhood window ↔
      m ∈ g.nodes ∧ ∃ n ∈ window, g.Within neighborhood.radius n.id m.id := by
  have hrows {m : Node} : m ∈ window.flatMap (fun n => n :: g.nodesAround n.id neighborhood) ↔
      m ∈ g.nodes ∧ ∃ n ∈ window, g.Within neighborhood.radius n.id m.id := by
    rw [List.mem_flatMap]
    constructor
    · rintro ⟨n, hn, hm⟩
      obtain ⟨hm, hnear⟩ := (h.mem_nodesAround (hwindow n hn)).1 hm
      exact ⟨hm, n, hn, hnear⟩
    · rintro ⟨hm, n, hn, hnear⟩
      exact ⟨n, hn, (h.mem_nodesAround (hwindow n hn)).2 ⟨hm, hnear⟩⟩
  rw [pageNodes, h.mem_distinctNodes fun n hn => (hrows.1 hn).1, hrows]

theorem Sound.mem_pageRelationships (h : g.Sound) {r : Relationship} :
    r ∈ g.pageRelationships neighborhood window ↔
      r ∈ g.relationships ∧ ∃ n ∈ window, ∃ v, r.touches v ∧
        ∃ i < neighborhood.radius, g.Within i n.id v := by
  have hrows {r : Relationship} :
      r ∈ window.flatMap (fun n => g.relationshipsAround n.id neighborhood) ↔
        r ∈ g.relationships ∧ ∃ n ∈ window, ∃ v, r.touches v ∧
          ∃ i < neighborhood.radius, g.Within i n.id v := by
    simp only [List.mem_flatMap, h.mem_relationshipsAround]
    grind
  rw [pageRelationships, h.mem_distinctRelationships fun q hq => (hrows.1 hq).1, hrows]

end Graph

namespace Engine

variable {s : MemoryStore}

/-- The page of subjects is what a fetch of subjects alone gives. With a neighbourhood the same page
comes with the nodes within its hops of some subject, and with the relationships that have an end
nearer than that. -/
theorem fetch_ball (hs : s.Healthy) (hb : s.graph.Built) (e : Engine) (f : Filter)
    (hf : f.constrainsRelationships = false) (limit offset : Option Nat)
    (neighborhood : Neighborhood) :
    ∃ (subjects result : Subgraph) (window nodes : List Node) (relationships : List Relationship),
      (e.fetch { filter := f, limit, offset, neighborhood := .subject }).run s =
        (.ok subjects, s) ∧
      (e.fetch { filter := f, limit, offset, neighborhood }).run s = (.ok result, s) ∧
      (∀ n ∈ window, n ∈ s.graph.nodes ∧ f.Admits n) ∧
      subjects.nodes = window.map NodeView.ofNode ∧
      result.nodes = nodes.map NodeView.ofNode ∧
      (nodes.map NodeOf.id).Nodup ∧
      (∀ m, m ∈ nodes ↔ m ∈ s.graph.nodes ∧
        ∃ n ∈ window, s.graph.Within neighborhood.radius n.id m.id) ∧
      result.edges = relationships.map EdgeView.ofRelationship ∧
      (relationships.map RelationshipOf.id).Nodup ∧
      ∀ r, r ∈ relationships ↔ r ∈ s.graph.relationships ∧
        ∃ n ∈ window, ∃ v, r.touches v ∧
          ∃ i < neighborhood.radius, s.graph.Within i n.id v := by
  have hsound := hb.sound
  let page := Page.ofRequest limit offset
  let window := page.window (s.graph.admitted f)
  let rows (neighborhood : Neighborhood) : List Row := window.map fun n =>
    nodeRow n (s.graph.relationshipsAround n.id neighborhood)
      (s.graph.nodesAround n.id neighborhood)
  have hrun (neighborhood : Neighborhood) :
      (e.fetch { filter := f, limit, offset, neighborhood }).run s =
        (.ok ((Subgraph.ofRows (rows neighborhood)).answering f page), s) := by
    refine fetch_ok hs e _ ?_
    simp only [Graph.evaluate, f.isRelational_compiled, hf]
    exact Graph.fetch_compiled f "n" "r" neighborhood page
  have hwindow : ∀ n ∈ window, n ∈ s.graph.nodes ∧ f.Admits n := by
    intro n hn
    exact (Graph.mem_admitted f).1 ((page.window_sublist _).subset hn)
  refine ⟨_, _, window, s.graph.pageNodes neighborhood window,
    s.graph.pageRelationships neighborhood window, hrun .subject, hrun neighborhood, hwindow,
    ?_, ?_, nodup_map_firstBy _ _, ?_, ?_, nodup_map_firstBy _ _, ?_⟩
  · have hascends : Ascends (fun n : Node => n.id.number) window :=
      (hsound.ascends_admitted f).sublist (page.window_sublist _)
    exact nodes_ofRows_ascending hascends fun _ => []
  · change (Subgraph.ofRows (rows neighborhood)).nodes = _
    rw [nodes_ofRows]
    rfl
  · exact fun m => hsound.mem_pageNodes fun n hn => (hwindow n hn).1
  · change (Subgraph.ofRows (rows neighborhood)).edges = _
    rw [edges_ofRows]
    rfl
  · exact fun r => hsound.mem_pageRelationships

/-- Two hops around the company of the sample that is in Europe: it rates both products, one of
which has a loop and a link to the other. The other company is out of reach. -/
theorem fetch_ball_sample :
    MemoryStore.sample.Healthy ∧ MemoryStore.sample.graph.Built ∧
      ({ regions := ["EU"] } : Filter).constrainsRelationships = false ∧
      ∃ (subjects result : Subgraph) (window nodes : List Node),
        (fetch {} { filter := { regions := ["EU"] }, neighborhood := .subject }).run
          MemoryStore.sample = (.ok subjects, MemoryStore.sample) ∧
        (fetch {} { filter := { regions := ["EU"] }, neighborhood := .twoHop }).run
          MemoryStore.sample = (.ok result, MemoryStore.sample) ∧
        subjects.nodes.map (·.id) = ["1"] ∧ subjects.nodes = window.map NodeView.ofNode ∧
        result.nodes.map (·.id) = ["1", "0", "2"] ∧ result.nodes = nodes.map NodeView.ofNode ∧
        result.edges.map (·.id) = ["0", "1", "2", "3"] ∧
        ∀ m ∈ nodes, ∃ n ∈ window, MemoryStore.sample.graph.Within 2 n.id m.id := by
  refine ⟨MemoryStore.healthy_sample, MemoryStore.built_sample, rfl, ?_⟩
  obtain ⟨subjects, result, window, nodes, _, hsubjects, hrun, -, hwindow, hnodes, -, hball, -⟩ :=
    fetch_ball MemoryStore.healthy_sample MemoryStore.built_sample {} { regions := ["EU"] } rfl
      none none .twoHop
  have hsubject : ((fetch {} { filter := { regions := ["EU"] }, neighborhood := .subject }).run
      MemoryStore.sample).1.map (·.nodes.map (·.id)) = .ok ["1"] := by decide +kernel
  have hids : ((fetch {} { filter := { regions := ["EU"] }, neighborhood := .twoHop }).run
      MemoryStore.sample).1.map (fun r => (r.nodes.map (·.id), r.edges.map (·.id))) =
      .ok (["1", "0", "2"], ["0", "1", "2", "3"]) := by decide +kernel
  have hviewed := Call.view_of_run hrun hids
  obtain ⟨hnodeIds, hedgeIds⟩ := Prod.mk.inj hviewed
  have hsubjectIds := Call.view_of_run hsubjects hsubject
  exact ⟨subjects, result, window, nodes, hsubjects, hrun, hsubjectIds, hwindow, hnodeIds, hnodes,
    hedgeIds, fun m hm => ((hball m).1 hm).2⟩

end Engine

end FacetedGraph
