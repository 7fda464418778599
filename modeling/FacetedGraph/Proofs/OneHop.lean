import FacetedGraph.Proofs.Options

/-!
# Options and what a fetch shows

The options of a selection are gathered from its scope, and a fetch gathers its result from the
relationships at its subjects, with the nodes at their other ends. One hop around the subjects both
come to the same nodes and the same ratings, so the options can be read off the result.

## Main definitions

* `Subgraph.Displays` — a result has a value where a facet looks for texts.

## Main statements

* `Graph.Sound.mem_around_nodeScoped`, `Graph.Sound.mem_between_nodeScoped` — what is one hop around
  the subjects of a selection.
* `Graph.Sound.around_perm_scope` — it is the scope.
* `Engine.options_match_oneHop` — the options, read off the result of a fetch.
-/

namespace FacetedGraph

/-- A result has a value where a facet looks for texts: on one of its nodes, or on one of its
ratings. -/
def Subgraph.Displays (shown : Subgraph) : FacetSource → Value → Prop
  | .property d, v =>
    ∃ n ∈ shown.nodes, ∃ key ∈ d.keys, Fields.get? n.properties key = some v
  | .rating key, v =>
    ∃ edge ∈ shown.edges, edge.type = "RATES" ∧ Fields.get? edge.properties key = some v
  | .entity _, _ => False

/-! ## One hop around the subjects -/

namespace Graph

variable {g : Graph} {f : Filter}

theorem relevant_nodeScoped (id : NodeId) : g.relevant f.nodeScoped id = g.incident id := by
  apply List.filter_eq_self.2
  intro r _
  simp [f.admitsRelationship_nodeScoped r]

theorem Sound.mem_around_nodeScoped (h : g.Sound) {n : Node} :
    n ∈ g.around f.nodeScoped (g.admitted f) ↔ n ∈ g.nodes ∧ g.InScope f n := by
  have hwindow : ∀ n ∈ g.admitted f, n ∈ g.nodes := fun n hn => ((mem_admitted f).1 hn).1
  simp only [h.mem_around f.nodeScoped hwindow, f.admitsRelationship_nodeScoped, true_and,
    mem_admitted, InScope]
  constructor
  · rintro (⟨hn, hf⟩ | ⟨hn, m, ⟨hm, hf⟩, r, hr, ho⟩)
    · exact ⟨hn, .inl hf⟩
    · exact ⟨hn, .inr ⟨m, hm, hf, r, hr, Relationship.touches_of_otherEnd ho⟩⟩
  · rintro ⟨hn, hf | ⟨m, hm, hf, r, hr, htm, htn⟩⟩
    · exact .inl ⟨hn, hf⟩
    · -- A relationship of a node with itself leads to no other node.
      by_cases heq : m.id = n.id
      · exact .inl ⟨hn, h.node_ext hm hn heq ▸ hf⟩
      · exact .inr ⟨hn, m, ⟨hm, hf⟩, r, hr, Relationship.otherEnd_of_touches htm htn heq⟩

theorem Sound.mem_between_nodeScoped (h : g.Sound) {r : Relationship} :
    r ∈ g.between f.nodeScoped (g.admitted f) ↔
      r ∈ g.relationships ∧ ∃ n ∈ g.nodes, f.Admits n ∧ r.touches n.id := by
  simp only [h.mem_between f.nodeScoped, f.admitsRelationship_nodeScoped, true_and, mem_admitted,
    and_assoc]

/-- The two ways to gather nodes around the subjects come to the same nodes. -/
theorem Sound.around_perm_scope (h : g.Sound) :
    (g.around f.nodeScoped (g.admitted f)).Perm (g.scope (g.admitted f)) := by
  have haround : (g.around f.nodeScoped (g.admitted f)).Nodup :=
    .of_map NodeOf.id (nodup_map_firstBy _ _)
  have hscope : (g.scope (g.admitted f)).Nodup := .of_map NodeOf.id (h.nodup_scope f)
  apply (List.perm_ext_iff_of_nodup haround hscope).2
  intro n
  rw [h.mem_around_nodeScoped, h.mem_scope]

/-- What one hop around the subjects displays is what the selection meets. -/
theorem Sound.displays_iff (h : g.Sound) {shown : Subgraph}
    (hnodes : shown.nodes = (g.around f.nodeScoped (g.admitted f)).map NodeView.ofNode)
    (hedges : shown.edges =
      (g.between f.nodeScoped (g.admitted f)).map EdgeView.ofRelationship)
    {source : FacetSource} {v : Value} : shown.Displays source v ↔ g.Reveals f source v := by
  cases source with
  | property d =>
    rw [Subgraph.Displays, hnodes]
    constructor
    · rintro ⟨_, hview, key, hkey, hv⟩
      obtain ⟨n, hn, rfl⟩ := List.mem_map.1 hview
      obtain ⟨hn, hscope⟩ := h.mem_around_nodeScoped.1 hn
      exact ⟨n, hn, hscope, key, hkey, hv⟩
    · rintro ⟨n, hn, hscope, key, hkey, hv⟩
      exact ⟨_, List.mem_map_of_mem (h.mem_around_nodeScoped.2 ⟨hn, hscope⟩), key, hkey, hv⟩
  | rating key =>
    rw [Subgraph.Displays, hedges]
    constructor
    · rintro ⟨_, hview, htype, hv⟩
      obtain ⟨r, hr, rfl⟩ := List.mem_map.1 hview
      obtain ⟨hr, hsubject⟩ := h.mem_between_nodeScoped.1 hr
      exact ⟨r, hr, htype, hsubject, hv⟩
    · rintro ⟨r, hr, htype, hsubject, hv⟩
      exact ⟨_, List.mem_map_of_mem (h.mem_between_nodeScoped.2 ⟨hr, hsubject⟩), htype, hv⟩
  | entity kind => rfl

end Graph

/-! ## Calls -/

namespace Engine

variable {s : MemoryStore}

/-- The request for what is one hop around all subjects of a selection, which are not too many. -/
def oneHop (selection : Filter) : FetchRequest where
  filter := selection.nodeScoped
  limit := some 10000
  offset := some 0
  neighborhood := .oneHop

theorem fetch_oneHop (hs : s.Healthy) (e : Engine) {f : Filter}
    (hsize : (s.graph.admitted f).length ≤ 10000) :
    ∃ shown, (e.fetch (oneHop f)).run s = (.ok shown, s) ∧
      shown.nodes =
        (s.graph.around f.nodeScoped (s.graph.admitted f)).map NodeView.ofNode ∧
      shown.edges =
        (s.graph.between f.nodeScoped (s.graph.admitted f)).map EdgeView.ofRelationship := by
  have hpage : (oneHop f).page.window (s.graph.admitted f) = s.graph.admitted f :=
    Page.window_eq_self rfl hsize
  have hrows : s.graph.evaluate ⟨.fetch .oneHop, f.nodeScoped.compiled "n" "r", (oneHop f).page⟩ =
      .ok ((s.graph.admitted f).map fun n =>
        nodeRow n (distinctRelationships (s.graph.relevant f.nodeScoped n.id))
          (distinctNodes (s.graph.farNodes n.id (s.graph.relevant f.nodeScoped n.id)))) := by
    have hscoped : f.nodeScoped.constrainsRelationships = false := rfl
    simp only [Graph.evaluate, f.nodeScoped.isRelational_compiled, hscoped]
    refine (Graph.fetch_compiled f.nodeScoped "n" "r" .oneHop (oneHop f).page).trans ?_
    simp only [Graph.admitted_nodeScoped, hpage, Graph.relevant_nodeScoped]
    rfl
  refine ⟨_, fetch_ok hs e (oneHop f) hrows, ?_, ?_⟩
  · exact nodes_ofRows _ _ _ _
  · exact edges_ofRows _ _ _ _

/-- The options of a selection are what is seen one hop around its subjects: the texts of a facet
are those of the values on the nodes, or on the ratings, that the fetch shows, and the entities of a
kind are the nodes with its label. -/
theorem options_match_oneHop (hs : s.Healthy) (hb : s.graph.Built) (e : Engine)
    (selection : Filter) (hsize : (s.graph.admitted selection).length ≤ 10000) :
    ∃ (o : FacetOptions) (shown : Subgraph),
      (e.options selection).run s = (.ok o, s) ∧
      (e.fetch (oneHop selection)).run s = (.ok shown, s) ∧
      (∀ facet : Facet, facet.offersEntities = false →
        ∃ texts, o.values? facet = some texts ∧ texts.Pairwise (· < ·) ∧
          ∀ text, text ∈ texts ↔
            text ≠ "" ∧ ∃ v, shown.Displays facet.source v ∧ v.Shows text) ∧
      ∀ (facet : Facet) (kind : EntityKind), facet.source = .entity kind →
        ∃ choices, o.entities? facet = some choices ∧
          (choices.map (·.id)).Perm
            ((shown.nodes.filter (·.labels.contains kind.label)).map (·.id)) := by
  have hsound := hb.sound
  obtain ⟨shown, hfetch, hnodes, hedges⟩ := fetch_oneHop hs e hsize
  refine ⟨s.graph.optionsOf selection, shown, options_ok hs e selection, hfetch, ?_, ?_⟩
  · intro facet hfacet
    refine ⟨_, FacetOptions.values?_eq_some.2 ⟨hfacet, rfl⟩, Graph.pairwise_texts_optionsOf, ?_⟩
    intro text
    simp only [hsound.mem_texts_optionsOf, hsound.displays_iff hnodes hedges]
  · intro facet kind hfacet
    have hentities : facet.offersEntities = true := by rw [Facet.offersEntities, hfacet]
    refine ⟨_, FacetOptions.entities?_eq_some.2 ⟨hentities, rfl⟩, ?_⟩
    have hchoices := (hsound.entities_optionsOf_perm (f := selection) hfacet).map EntityChoice.id
    have hshown := (hsound.around_perm_scope (f := selection)).filter (·.hasLabel kind.label)
    have hids : (shown.nodes.filter (·.labels.contains kind.label)).map NodeView.id =
        ((s.graph.around selection.nodeScoped (s.graph.admitted selection)).filter
          (·.hasLabel kind.label)).map (·.id.text) := by
      rw [hnodes, List.filter_map, List.map_map]
      rfl
    rw [hids]
    rw [List.map_map] at hchoices
    exact hchoices.trans (hshown.map (·.id.text)).symm

/-- In the sample one company is in Europe, and a hop away are the products that it rates. -/
theorem options_match_oneHop_sample :
    MemoryStore.sample.Healthy ∧ MemoryStore.sample.graph.Built ∧
      (MemoryStore.sample.graph.admitted { regions := ["EU"] }).length ≤ 10000 ∧
      ∃ (o : FacetOptions) (shown : Subgraph),
        (options {} { regions := ["EU"] }).run MemoryStore.sample = (.ok o, MemoryStore.sample) ∧
        (fetch {} (oneHop { regions := ["EU"] })).run MemoryStore.sample =
          (.ok shown, MemoryStore.sample) ∧
        o.values? .assetClasses = some ["Bond", "Equity"] ∧
        (∃ v, shown.Displays (.property .assetClass) v ∧ v.Shows "Bond") ∧
        ∃ choices, o.entities? .products = some choices ∧
          (choices.map (·.id)).Perm
            ((shown.nodes.filter (·.labels.contains "PRODUCT")).map (·.id)) := by
  have hsize : (MemoryStore.sample.graph.admitted { regions := ["EU"] }).length ≤ 10000 :=
    (Graph.length_admitted_le _ _).trans (by decide +kernel)
  obtain ⟨o, shown, hoptions, hfetch, htexts, hentities⟩ := options_match_oneHop
    MemoryStore.healthy_sample MemoryStore.built_sample {} { regions := ["EU"] } hsize
  have hvalues : o.values? .assetClasses = some ["Bond", "Equity"] := by
    rw [optionsOf_of_run MemoryStore.healthy_sample hoptions]
    exact Graph.values?_of_offer rfl (by decide +kernel)
  obtain ⟨texts, hassets, -, hshown⟩ := htexts .assetClasses rfl
  obtain rfl : texts = ["Bond", "Equity"] := Option.some_inj.1 (hassets.symm.trans hvalues)
  exact ⟨MemoryStore.healthy_sample, MemoryStore.built_sample, hsize, o, shown, hoptions, hfetch,
    hvalues, ((hshown "Bond").1 List.mem_cons_self).2, hentities .products .product rfl⟩

end Engine

end FacetedGraph
