import FacetedGraph.Proofs.Filter.Conditions
import FacetedGraph.Proofs.Graph.Incidence
import FacetedGraph.Proofs.Result.Rows
import FacetedGraph.Proofs.Store.Healthy

/-!
# Filtered fetch

A fetch from a healthy store gives the nodes that the filter admits, cut to the page, and nothing
else. With rating or rank dimensions in use a node also needs a relationship that all of these
admit, and comes with all such relationships and the nodes at their ends.

## Main definitions

* `Graph.admitted`, `Graph.related` — the subjects of a filter without and with such dimensions.

## Main statements

* `Engine.fetch_admitted` — a fetch of subjects alone.
* `Engine.fetch_related` — a fetch over relationships.
-/

namespace FacetedGraph

open Classical

/-! ## Subjects -/

namespace Graph

variable {g : Graph} (f : Filter)

/-- The nodes that a filter admits, in ascending order. -/
noncomputable def admitted (g : Graph) (f : Filter) : List Node := g.nodeList.filter (f.Admits ·)

theorem mem_admitted {n : Node} : n ∈ g.admitted f ↔ n ∈ g.nodes ∧ f.Admits n := by
  simp [admitted, nodeList]

theorem length_admitted_le (g : Graph) : (g.admitted f).length ≤ g.nodes.size := by
  rw [← Array.length_toList]
  exact List.length_filter_le _ _

theorem Sound.ascends_admitted (h : g.Sound) :
    Ascends (fun n : Node => n.id.number) (g.admitted f) :=
  h.ascends_nodeList.filter _

theorem subjects_compiled (subject var : String) :
    g.subjects (f.compiled subject var) = .ok (g.admitted f) :=
  filterM_ok fun n _ => f.answers_matchesNode subject var n

theorem admitted_congr {f f' : Filter} (h : f.SameChoices f') : g.admitted f = g.admitted f' :=
  List.filter_congr fun n _ => by simp [h.admits_iff n]

/-- The relationships at a node that a filter admits. -/
noncomputable def relevant (g : Graph) (f : Filter) (id : NodeId) : List Relationship :=
  (g.incident id).filter (f.AdmitsRelationship ·)

theorem Sound.mem_relevant (h : g.Sound) {id : NodeId} {r : Relationship} :
    r ∈ g.relevant f id ↔ r ∈ g.relationships ∧ r.touches id ∧ f.AdmitsRelationship r := by
  simp [relevant, h.mem_incident, and_assoc]

theorem matching_compiled (subject var : String) (id : NodeId) :
    g.matching (f.compiled subject var) id = .ok (g.relevant f id) :=
  filterM_ok fun r _ => f.answers_matchesRelationship subject var r

/-- The admitted nodes that an admitted relationship touches. -/
noncomputable def related (g : Graph) (f : Filter) : List Node :=
  (g.admitted f).filter fun n => !(g.relevant f n.id).isEmpty

theorem Sound.mem_related (h : g.Sound) {n : Node} :
    n ∈ g.related f ↔ n ∈ g.nodes ∧ f.Admits n ∧
      ∃ r ∈ g.relationships, r.touches n.id ∧ f.AdmitsRelationship r := by
  have hsome : (!(g.relevant f n.id).isEmpty) = true ↔ ∃ r, r ∈ g.relevant f n.id := by
    rw [Bool.not_eq_true', List.isEmpty_eq_false_iff_exists_mem]
  simp only [related, List.mem_filter, mem_admitted, hsome, h.mem_relevant f, and_assoc]

theorem Sound.ascends_related (h : g.Sound) :
    Ascends (fun n : Node => n.id.number) (g.related f) :=
  (h.ascends_admitted f).filter _

/-! ## Rows -/

theorem fetch_compiled (subject var : String) (neighborhood : Neighborhood) (page : Page) :
    g.fetch (f.compiled subject var) neighborhood page =
      .ok ((page.window (g.admitted f)).map fun n =>
        nodeRow n (g.relationshipsAround n.id neighborhood) (g.nodesAround n.id neighborhood)) := by
  rw [fetch, subjects_compiled]
  rfl

theorem fetchRelational_compiled (subject var : String) (page : Page) :
    g.fetchRelational (f.compiled subject var) page =
      .ok ((page.window (g.related f)).map fun n =>
        nodeRow n (distinctRelationships (g.relevant f n.id))
          (distinctNodes (g.farNodes n.id (g.relevant f n.id)))) := by
  have hfound : ((g.admitted f).mapM fun n =>
      return (n, ← g.matching (f.compiled subject var) n.id) : Except Error _) =
      .ok ((g.admitted f).map fun n => (n, g.relevant f n.id)) :=
    mapM_ok fun n _ => by rw [matching_compiled]; rfl
  rw [fetchRelational, subjects_compiled]
  simp only [bind, Except.bind] at hfound ⊢
  rw [hfound]
  simp only [List.filter_map, Page.window_map, List.map_map, pure, Except.pure]
  rfl

/-- The nodes of a page with what the filter admits around them, each once. -/
noncomputable def around (g : Graph) (f : Filter) (window : List Node) : List Node :=
  firstBy NodeOf.id (window.flatMap fun n =>
    n :: distinctNodes (g.farNodes n.id (g.relevant f n.id)))

noncomputable def between (g : Graph) (f : Filter) (window : List Node) : List Relationship :=
  firstBy RelationshipOf.id (window.flatMap fun n => distinctRelationships (g.relevant f n.id))

variable {window : List Node}

theorem Sound.mem_distinctRelationships_relevant (h : g.Sound) {id : NodeId} {r : Relationship} :
    r ∈ distinctRelationships (g.relevant f id) ↔
      r ∈ g.relationships ∧ r.touches id ∧ f.AdmitsRelationship r := by
  rw [h.mem_distinctRelationships fun q hq => ((h.mem_relevant f).1 hq).1, h.mem_relevant]

theorem Sound.mem_between (h : g.Sound) {r : Relationship} :
    r ∈ g.between f window ↔
      r ∈ g.relationships ∧ f.AdmitsRelationship r ∧ ∃ n ∈ window, r.touches n.id := by
  have hall {r : Relationship} :
      r ∈ window.flatMap (fun n => distinctRelationships (g.relevant f n.id)) ↔
        r ∈ g.relationships ∧ f.AdmitsRelationship r ∧ ∃ n ∈ window, r.touches n.id := by
    simp only [List.mem_flatMap, h.mem_distinctRelationships_relevant f]
    constructor
    · rintro ⟨n, hn, hr, ht, hf⟩
      exact ⟨hr, hf, n, hn, ht⟩
    · rintro ⟨hr, hf, n, hn, ht⟩
      exact ⟨n, hn, hr, ht, hf⟩
  exact (h.mem_distinctRelationships fun q hq => (hall.1 hq).1).trans hall

theorem Sound.mem_farNodes (h : g.Sound) {id : NodeId} {rs : List Relationship} {m : Node} :
    m ∈ g.farNodes id rs ↔ m ∈ g.nodes ∧ ∃ r ∈ rs, r.otherEnd id = some m.id := by
  simp only [farNodes, List.mem_filterMap, Option.bind_eq_some_iff, h.node?_eq_some]
  constructor
  · rintro ⟨r, hr, other, ho, hm, rfl⟩
    exact ⟨hm, r, hr, ho⟩
  · rintro ⟨hm, r, hr, ho⟩
    exact ⟨r, hr, m.id, ho, hm, rfl⟩

theorem Sound.mem_distinctNodes_farNodes (h : g.Sound) {id : NodeId} {rs : List Relationship}
    {m : Node} :
    m ∈ distinctNodes (g.farNodes id rs) ↔ m ∈ g.nodes ∧ ∃ r ∈ rs, r.otherEnd id = some m.id := by
  rw [h.mem_distinctNodes fun n hn => (h.mem_farNodes.1 hn).1, h.mem_farNodes]

theorem Sound.mem_around (h : g.Sound) (hwindow : ∀ n ∈ window, n ∈ g.nodes) {m : Node} :
    m ∈ g.around f window ↔ m ∈ window ∨
      m ∈ g.nodes ∧ ∃ n ∈ window, ∃ r ∈ g.relationships,
        f.AdmitsRelationship r ∧ r.otherEnd n.id = some m.id := by
  have hall {m : Node} :
      m ∈ window.flatMap (fun n => n :: distinctNodes (g.farNodes n.id (g.relevant f n.id))) ↔
        m ∈ window ∨ m ∈ g.nodes ∧ ∃ n ∈ window, ∃ r ∈ g.relationships,
          f.AdmitsRelationship r ∧ r.otherEnd n.id = some m.id := by
    simp only [List.mem_flatMap, List.mem_cons, h.mem_distinctNodes_farNodes]
    constructor
    · rintro ⟨n, hn, rfl | ⟨hm, r, hr, ho⟩⟩
      · exact .inl hn
      · obtain ⟨hr, -, hf⟩ := (h.mem_relevant f).1 hr
        exact .inr ⟨hm, n, hn, r, hr, hf, ho⟩
    · rintro (hm | ⟨hm, n, hn, r, hr, hf, ho⟩)
      · exact ⟨m, hm, .inl rfl⟩
      · have ht : r.touches n.id := by rw [← Relationship.isSome_otherEnd, ho]; rfl
        exact ⟨n, hn, .inr ⟨hm, r, (h.mem_relevant f).2 ⟨hr, ht, hf⟩, ho⟩⟩
  have hstored {m : Node} (hm : m ∈ window.flatMap fun n =>
      n :: distinctNodes (g.farNodes n.id (g.relevant f n.id))) : m ∈ g.nodes := by
    rcases hall.1 hm with hm | ⟨hm, -⟩
    · exact hwindow m hm
    · exact hm
  exact (h.mem_distinctNodes fun n hn => hstored hn).trans hall

end Graph

/-! ## Fetches from a healthy store -/

namespace Engine

variable {s : MemoryStore}

theorem check_fetch (neighborhood : Neighborhood) (conditions : Conditions) (page : Page) :
    ({ pattern := .fetch neighborhood, conditions, page } : Plan).check = .ok () :=
  Plan.check_ok rfl (.inr rfl) (.inr rfl)

theorem fetch_ok (hs : s.Healthy) (e : Engine) (request : FetchRequest) {rows : List Row}
    (hrows : s.graph.evaluate { pattern := .fetch request.neighborhood
                                conditions := request.filter.compiled "n" "r"
                                page := request.page } = .ok rows) :
    (e.fetch request).run s =
      (.ok ((Subgraph.ofRows rows).answering request.filter request.page), s) := by
  have hplan : fetchPlan request =
      .ok ⟨.fetch request.neighborhood, request.filter.compiled "n" "r", request.page⟩ := by
    rw [fetchPlan, request.filter.conditions_some]
    rfl
  have hrun := hs.run_plan e (check_fetch request.neighborhood
    (request.filter.compiled "n" "r") request.page)
  rw [hrows] at hrun
  rw [fetch, hplan, Call.run_bind_ok (Call.run_ofExcept _ s), Call.run_bind_ok hrun]
  rfl

/-- A fetch of subjects alone gives the nodes that the filter admits, in ascending order and cut
to the page. The order and repetition of values do not matter. -/
theorem fetch_admitted (hs : s.Healthy) (hb : s.graph.Built) (e : Engine) (f : Filter)
    (hf : f.constrainsRelationships = false) (limit offset : Option Nat) :
    ∃ (result : Subgraph) (matching : List Node),
      (e.fetch { filter := f, limit, offset, neighborhood := .subject }).run s =
        (.ok result, s) ∧
      (∀ n, n ∈ matching ↔ n ∈ s.graph.nodes ∧ f.Admits n) ∧
      Ascends (fun n : Node => n.id.number) matching ∧
      result.nodes = ((matching.drop (offset.getD 0)).take
        (max 1 (min (limit.getD 1000) 10000))).map NodeView.ofNode ∧
      result.edges = [] ∧
      ∀ f' : Filter, f'.constrainsRelationships = false → f.SameChoices f' →
        ∃ result', (e.fetch { filter := f', limit, offset, neighborhood := .subject }).run s =
            (.ok result', s) ∧
          result'.nodes = result.nodes ∧ result'.edges = result.edges := by
  have hsound := hb.sound
  let page := Page.ofRequest limit offset
  let rows (f : Filter) : List Row :=
    (page.window (s.graph.admitted f)).map fun n => nodeRow n [] []
  have hrun (f : Filter) (hf : f.constrainsRelationships = false) :
      (e.fetch { filter := f, limit, offset, neighborhood := .subject }).run s =
        (.ok ((Subgraph.ofRows (rows f)).answering f page), s) := by
    refine fetch_ok hs e _ ?_
    simp only [Graph.evaluate, f.isRelational_compiled, hf]
    exact Graph.fetch_compiled f "n" "r" .subject page
  refine ⟨_, s.graph.admitted f, hrun f hf, fun n => Graph.mem_admitted f,
    hsound.ascends_admitted f, ?_, ?_, ?_⟩
  · have hpage : Ascends (fun n : Node => n.id.number) (page.window (s.graph.admitted f)) :=
      (hsound.ascends_admitted f).sublist (page.window_sublist _)
    exact nodes_ofRows_ascending hpage fun _ => []
  · change (Subgraph.ofRows (rows f)).edges = _
    have hnone : (page.window (s.graph.admitted f)).flatMap
        (fun _ => ([] : List Relationship)) = [] :=
      List.flatMap_eq_nil_iff.2 fun _ _ => rfl
    rw [edges_ofRows, hnone]
    rfl
  · intro f' hf' hsame
    refine ⟨_, hrun f' hf', ?_⟩
    simp only [rows, Graph.admitted_congr hsame]
    exact ⟨rfl, rfl⟩

/-- The second of the products about bonds. -/
def bonds : FetchRequest where
  filter := { assetClasses := ["Bond", "Bond"], entityKinds := [.product] }
  limit := some 0
  offset := some 1

/-- The sample with one more product about bonds. The first of its products is about equities
alone. -/
def bondStore : MemoryStore :=
  (MemoryStore.sample.createNode ["PRODUCT"] [("asset_class", .string "Bond")]).1

theorem fetch_bonds :
    bondStore.Healthy ∧ bondStore.graph.Built ∧ bonds.filter.constrainsRelationships = false ∧
      ∃ result, (fetch {} bonds).run bondStore = (.ok result, bondStore) ∧
        result.nodes.map (·.id) = ["4"] ∧ result.edges = [] := by
  have hs : bondStore.Healthy := ⟨rfl, rfl, rfl⟩
  have hb : bondStore.graph.Built := MemoryStore.built_createNode MemoryStore.built_sample _ _
  refine ⟨hs, hb, rfl, ?_⟩
  obtain ⟨result, _, hrun, -, -, -, hedges, -⟩ :=
    fetch_admitted hs hb {} bonds.filter rfl (some 0) (some 1)
  have hids : ((fetch {} bonds).run bondStore).1.map (·.nodes.map (·.id)) = .ok ["4"] := by
    decide +kernel
  have hfetch : (fetch {} bonds).run bondStore = (.ok result, bondStore) := hrun
  have hnodes := Call.view_of_run hfetch hids
  exact ⟨result, hfetch, hnodes, hedges⟩

/-- A fetch over relationships gives the nodes of the page, all relationships at them that every
rating and rank dimension admits, and the nodes at the other ends. One relationship has to satisfy
all dimensions for a node to be a subject. -/
theorem fetch_related (hs : s.Healthy) (hb : s.graph.Built) (e : Engine) (f : Filter)
    (hf : f.constrainsRelationships = true) (limit offset : Option Nat) :
    ∃ (result : Subgraph) (subjects window nodes : List Node) (relationships : List Relationship),
      (∀ neighborhood, (e.fetch { filter := f, limit, offset, neighborhood }).run s =
        (.ok result, s)) ∧
      (∀ n, n ∈ subjects ↔ n ∈ s.graph.nodes ∧ f.Admits n ∧
        ∃ r ∈ s.graph.relationships, r.touches n.id ∧ f.AdmitsRelationship r) ∧
      Ascends (fun n : Node => n.id.number) subjects ∧
      window = (subjects.drop (offset.getD 0)).take (max 1 (min (limit.getD 1000) 10000)) ∧
      result.edges = relationships.map EdgeView.ofRelationship ∧
      (relationships.map RelationshipOf.id).Nodup ∧
      (∀ r, r ∈ relationships ↔ r ∈ s.graph.relationships ∧ f.AdmitsRelationship r ∧
        ∃ n ∈ window, r.touches n.id) ∧
      result.nodes = nodes.map NodeView.ofNode ∧
      (nodes.map NodeOf.id).Nodup ∧
      ∀ m, m ∈ nodes ↔ m ∈ window ∨ m ∈ s.graph.nodes ∧
        ∃ n ∈ window, ∃ r ∈ s.graph.relationships,
          f.AdmitsRelationship r ∧ r.otherEnd n.id = some m.id := by
  have hsound := hb.sound
  let page := Page.ofRequest limit offset
  let window := page.window (s.graph.related f)
  have hwindow : ∀ n ∈ window, n ∈ s.graph.nodes := fun n hn =>
    ((hsound.mem_related f).1 ((page.window_sublist _).subset hn)).1
  let rows : List Row := window.map fun n =>
    nodeRow n (distinctRelationships (s.graph.relevant f n.id))
      (distinctNodes (s.graph.farNodes n.id (s.graph.relevant f n.id)))
  have hrun (neighborhood : Neighborhood) :
      (e.fetch { filter := f, limit, offset, neighborhood }).run s =
        (.ok ((Subgraph.ofRows rows).answering f page), s) := by
    refine fetch_ok hs e _ ?_
    simp only [Graph.evaluate, f.isRelational_compiled, hf, if_true]
    exact Graph.fetchRelational_compiled f "n" "r" page
  refine ⟨_, s.graph.related f, window, s.graph.around f window, s.graph.between f window,
    hrun, fun n => hsound.mem_related f, hsound.ascends_related f, rfl, ?_,
    nodup_map_firstBy _ _, fun r => hsound.mem_between f, ?_, nodup_map_firstBy _ _,
    fun m => hsound.mem_around f hwindow⟩
  · change (Subgraph.ofRows rows).edges = _
    rw [edges_ofRows]
    rfl
  · change (Subgraph.ofRows rows).nodes = _
    rw [nodes_ofRows]
    rfl

/-- The products with a good rating. -/
def wellRated : FetchRequest where
  filter := { ratingRange := some { min := some (.ofInt 3) }, rankGroups := ["Positive"],
              entityKinds := [.product] }
  neighborhood := .twoHop

theorem fetch_wellRated :
    MemoryStore.sample.Healthy ∧ MemoryStore.sample.graph.Built ∧
      wellRated.filter.constrainsRelationships = true ∧
      ∃ result, (fetch {} wellRated).run MemoryStore.sample = (.ok result, MemoryStore.sample) ∧
        result.nodes.map (·.id) = ["0", "1"] ∧ result.edges.map (·.id) = ["0"] := by
  refine ⟨MemoryStore.healthy_sample, MemoryStore.built_sample, rfl, ?_⟩
  obtain ⟨result, _, _, _, _, hrun, -⟩ := fetch_related MemoryStore.healthy_sample
    MemoryStore.built_sample {} wellRated.filter rfl none none
  have hids : ((fetch {} wellRated).run MemoryStore.sample).1.map
      (fun r => (r.nodes.map (·.id), r.edges.map (·.id))) = .ok (["0", "1"], ["0"]) := by
    decide +kernel
  have hfetch : (fetch {} wellRated).run MemoryStore.sample = (.ok result, MemoryStore.sample) :=
    hrun .twoHop
  have hviewed := Call.view_of_run hfetch hids
  obtain ⟨hnodes, hedges⟩ := Prod.mk.inj hviewed
  exact ⟨result, hfetch, hnodes, hedges⟩

end Engine

end FacetedGraph
