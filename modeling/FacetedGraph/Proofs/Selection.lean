import FacetedGraph.Proofs.Facet.Choosing
import FacetedGraph.Proofs.Options
import FacetedGraph.Proofs.Result.Elements

/-!
# Selecting what is offered

Options show scalars as texts and take lists apart, on nodes and on ratings. A filter compares
texts: it looks into the lists of nodes, not into those of relationships, and a number or a truth
value is never equal to a text. So an offered text can be selected exactly when it is also stored
as a text, and an offered entity can always be selected by identity, but by name only when the
name is a text.

## Main definitions

* `Page.Covers` — a page with all entries of a list.
* `Graph.eligible` — the nodes that a fetch is about.
* `Graph.fetchRow`, `Graph.rowRelationships`, `Graph.rowNodes` — the row of such a node, and what it
  holds.
* `Graph.StoresText` — a text is stored as such where a facet looks.
* `Engine.FetchesAll` — what holds of each fetch that has every match on its page.

## Main statements

* `Graph.evaluate_fetch` — the rows of a fetch.
* `Engine.fetch_offered` — which options a fetch finds again.
-/

namespace FacetedGraph

def Page.Covers {α : Type} (page : Page) (items : List α) : Prop := page.window items = items

theorem nodes_ofRows_eq_nil {items : List Node} {relationships : Node → List Relationship}
    {connected : Node → List Node} :
    (Subgraph.ofRows (items.map fun n => nodeRow n (relationships n) (connected n))).nodes = [] ↔
      items = [] := by
  rw [nodes_ofRows]
  cases items with
  | nil => simp [firstBy, freshBy]
  | cons a rest => simp [firstBy, freshBy]

/-! ## Texts and lists of texts -/

theorem Value.holds_iff {v : Value} {text : String} : v.Holds text ↔ .string text ∈ v.elements := by
  cases v <;> simp [Holds, elements, eq_comm]

/-- A value that filters compare as it is offered: a text, or on a node also a list of texts. -/
def FacetSource.Takes : FacetSource → Value → Prop
  | .property _, v => ∀ item ∈ v.elements, ∃ t, item = .string t
  | _, v => ∃ t, v = .string t

theorem FacetSource.Takes.holds {d : NodeDimension} {v : Value} {text : String}
    (h : (FacetSource.property d).Takes v) (hshows : v.Shows text) : v.Holds text := by
  obtain ⟨item, hitem, htext⟩ := Value.exists_mem_elements_iff.2 hshows
  obtain ⟨t, rfl⟩ := h item hitem
  cases htext
  exact Value.holds_iff.2 hitem

/-! ## Subjects of a fetch -/

namespace Graph

variable {g : Graph} {f : Filter} {n : Node}

/-- The nodes that a fetch is about, on whatever page they are. -/
noncomputable def eligible (g : Graph) (f : Filter) : List Node :=
  if f.constrainsRelationships then g.related f else g.admitted f

theorem Sound.mem_eligible (h : g.Sound) :
    n ∈ g.eligible f ↔ n ∈ g.nodes ∧ f.Admits n ∧ (f.constrainsRelationships = true →
      ∃ r ∈ g.relationships, r.touches n.id ∧ f.AdmitsRelationship r) := by
  rw [eligible]
  split
  case isTrue hf => simp [h.mem_related f, hf]
  case isFalse hf => simp [mem_admitted, hf]

theorem length_eligible_le (g : Graph) (f : Filter) : (g.eligible f).length ≤ g.nodes.size := by
  rw [eligible]
  split
  · exact (List.length_filter_le _ _).trans (length_admitted_le f g)
  · exact length_admitted_le f g

/-- The relationships in the row of a subject: those that the filter is about, or all around. -/
noncomputable def rowRelationships (g : Graph) (f : Filter) (neighborhood : Neighborhood)
    (n : Node) : List Relationship :=
  if f.constrainsRelationships then distinctRelationships (g.relevant f n.id)
  else g.relationshipsAround n.id neighborhood

/-- The nodes that they come with. -/
noncomputable def rowNodes (g : Graph) (f : Filter) (neighborhood : Neighborhood) (n : Node) :
    List Node :=
  if f.constrainsRelationships then distinctNodes (g.farNodes n.id (g.relevant f n.id))
  else g.nodesAround n.id neighborhood

/-- The row of a subject, which does not depend on the page that it is on. -/
noncomputable def fetchRow (g : Graph) (f : Filter) (neighborhood : Neighborhood) (n : Node) :
    Row :=
  nodeRow n (g.rowRelationships f neighborhood n) (g.rowNodes f neighborhood n)

theorem evaluate_fetch (g : Graph) (f : Filter) (neighborhood : Neighborhood) (page : Page) :
    g.evaluate ⟨.fetch neighborhood, f.compiled "n" "r", page⟩ =
      .ok ((page.window (g.eligible f)).map (g.fetchRow f neighborhood)) := by
  have hrow : g.fetchRow f neighborhood = fun n =>
      nodeRow n (g.rowRelationships f neighborhood n) (g.rowNodes f neighborhood n) := rfl
  simp only [hrow, evaluate, f.isRelational_compiled, eligible, rowRelationships, rowNodes]
  cases f.constrainsRelationships with
  | true => exact fetchRelational_compiled f "n" "r" page
  | false => exact fetch_compiled f "n" "r" neighborhood page

/-! ## Offered texts -/

/-- A text is stored as such where a facet looks: on a node, by itself or in a list; on a
relationship of whatever type, by itself. -/
def StoresText (g : Graph) : FacetSource → String → Prop
  | .property d, text => ∃ n ∈ g.nodes, ∃ key ∈ d.keys, ∃ v, n.get? key = some v ∧ v.Holds text
  | .rating key, text => ∃ r ∈ g.relationships, r.get? key = some (.string text)
  | .entity _, _ => False

theorem Sound.exists_mem_eligible (h : g.Sound) {facet : Facet} {text : String}
    (hfacet : facet.offersEntities = false) :
    (∃ n, n ∈ g.eligible (facet.choosing [text])) ↔ g.StoresText facet.source text := by
  simp only [h.mem_eligible, Facet.constrainsRelationships_choosing]
  cases hsource : facet.source with
  | property d => simp [Facet.admits_choosing_property hsource, StoresText]
  | rating key =>
    simp only [Facet.admits_choosing_rating hsource, Facet.admitsRelationship_choosing hsource,
      StoresText, true_and]
    constructor
    · rintro ⟨n, -, hn⟩
      obtain ⟨r, hr, -, hstored⟩ := hn ⟨key, rfl⟩
      exact ⟨r, hr, hstored⟩
    · rintro ⟨r, hr, hstored⟩
      obtain ⟨n, hn⟩ := Option.isSome_iff_exists.1 (h.isSome_node?_source hr)
      obtain ⟨hn, hid⟩ := h.node?_eq_some.1 hn
      exact ⟨n, hn, fun _ => ⟨r, hr, by simp [Relationship.touches, hid], hstored⟩⟩
  | entity kind => simp [Facet.offersEntities, hsource] at hfacet

theorem Reveals.storesText {source : FacetSource} {text : String} {v : Value}
    (hv : g.Reveals f source v) (htakes : source.Takes v) (hshows : v.Shows text) :
    g.StoresText source text := by
  cases source with
  | property d =>
    obtain ⟨n, hn, -, key, hkey, hstored⟩ := hv
    exact ⟨n, hn, key, hkey, v, hstored, htakes.holds hshows⟩
  | rating key =>
    obtain ⟨r, hr, -, -, hstored⟩ := hv
    obtain ⟨t, rfl⟩ := htakes
    rcases hshows with heq | ⟨_, heq, -⟩
    · cases heq
      exact ⟨r, hr, hstored⟩
    · cases heq
  | entity kind => exact hv

/-! ## Offered entities -/

theorem Sound.mem_eligible_choosing (h : g.Sound) {facet : Facet} {kind : EntityKind}
    (hfacet : facet.source = .entity kind) (hn : n ∈ g.nodes) (hlabel : kind.label ∈ n.labels)
    {text : String} :
    n ∈ g.eligible (facet.choosing [text]) ↔
      n.get? "name" = some (.string text) ∨ n.id.text = text := by
  simp [h.mem_eligible, Facet.constrainsRelationships_choosing,
    Facet.admits_choosing_entity hfacet, hfacet, hn, hlabel]

end Graph

/-! ## Numbers and lists -/

namespace MemoryStore

/-- A product whose name and channel are numbers, with a rating whose group is a list. -/
def numbered : MemoryStore :=
  let s := (({} : MemoryStore).createNode ["PRODUCT"] [("name", .int 7), ("channel", .int 5)]).1
  (s.createRelationship ⟨0⟩ ⟨0⟩ "RATES"
    [("rankgroup", .list [.string "Gold", .string "Silver"])]).1

theorem healthy_numbered : numbered.Healthy := ⟨rfl, rfl, rfl⟩

theorem built_numbered : numbered.graph.Built :=
  built_createRelationship (built_createNode .empty _ _) _ _ _ _

end MemoryStore

/-! ## Fetches -/

namespace Engine

variable {s : MemoryStore}

theorem fetch_eligible (hs : s.Healthy) (e : Engine) (request : FetchRequest) :
    ∃ (relationships : Node → List Relationship) (connected : Node → List Node),
      (e.fetch request).run s =
        (.ok ((Subgraph.ofRows ((request.page.window (s.graph.eligible request.filter)).map fun n =>
          nodeRow n (relationships n) (connected n))).answering request.filter request.page), s) ∧
      (request.filter.constrainsRelationships = false → request.neighborhood = .subject →
        ∀ n, connected n = []) := by
  have hrows := s.graph.evaluate_fetch request.filter request.neighborhood request.page
  refine ⟨s.graph.rowRelationships request.filter request.neighborhood,
    s.graph.rowNodes request.filter request.neighborhood, fetch_ok hs e request hrows,
    fun hf hneighborhood n => ?_⟩
  rw [Graph.rowNodes, hf, hneighborhood]
  rfl

/-- What holds of each fetch of a filter, in whatever neighbourhood, that has every match on its
page. -/
def FetchesAll (e : Engine) (s : MemoryStore) (f : Filter) (P : Subgraph → Prop) : Prop :=
  ∀ limit offset neighborhood, ∃ result,
    (e.fetch { filter := f, limit, offset, neighborhood }).run s = (.ok result, s) ∧
      ((Page.ofRequest limit offset).Covers (s.graph.eligible f) → P result)

variable {f : Filter} {n : Node}

theorem fetchesAll_nonempty (hs : s.Healthy) (e : Engine) (f : Filter) :
    e.FetchesAll s f fun result => (result.nodes ≠ [] ↔ ∃ n, n ∈ s.graph.eligible f) := by
  intro limit offset neighborhood
  obtain ⟨_, _, hrun, -⟩ := fetch_eligible hs e { filter := f, limit, offset, neighborhood }
  refine ⟨_, hrun, fun hcovers => ?_⟩
  have hwindow : (Page.ofRequest limit offset).window (s.graph.eligible f) = [] ↔
      s.graph.eligible f = [] := by rw [hcovers]
  refine (not_congr (nodes_ofRows_eq_nil.trans hwindow)).trans ?_
  exact ⟨List.exists_mem_of_ne_nil _, fun ⟨_, hn⟩ => List.ne_nil_of_mem hn⟩

theorem fetchesAll_of_mem (hs : s.Healthy) (e : Engine) (hn : n ∈ s.graph.eligible f) :
    e.FetchesAll s f fun result => n.id.text ∈ result.nodes.map (·.id) := by
  intro limit offset neighborhood
  obtain ⟨_, _, hrun, -⟩ := fetch_eligible hs e { filter := f, limit, offset, neighborhood }
  refine ⟨_, hrun, fun hcovers => Subgraph.mem_ids_ofRows.2 ?_⟩
  have hpage : n ∈ (Page.ofRequest limit offset).window (s.graph.eligible f) := by
    rwa [hcovers]
  exact ⟨_, List.mem_map_of_mem hpage, by simp⟩

/-- Without a neighbourhood, a node that is no subject is on no page. -/
theorem fetch_misses (hs : s.Healthy) (hb : s.graph.Built) (e : Engine)
    (hf : f.constrainsRelationships = false) (hn : n ∈ s.graph.nodes)
    (hmiss : n ∉ s.graph.eligible f) (limit offset : Option Nat) :
    ∃ result, (e.fetch { filter := f, limit, offset }).run s = (.ok result, s) ∧
      n.id.text ∉ result.nodes.map (·.id) := by
  obtain ⟨_, connected, hrun, halone⟩ := fetch_eligible hs e { filter := f, limit, offset }
  refine ⟨_, hrun, fun hid => hmiss ?_⟩
  obtain ⟨row, hrow, hid⟩ := Subgraph.mem_ids_ofRows.1 hid
  obtain ⟨m, hm, rfl⟩ := List.mem_map.1 hrow
  have heq : m.id = n.id := by simpa [halone hf rfl, eq_comm] using hid
  have hm : m ∈ s.graph.eligible f := (Page.window_sublist _ _).subset hm
  rwa [← hb.sound.node_ext (hb.sound.mem_eligible.1 hm).1 hn heq]

section Entities

variable {facet : Facet} {kind : EntityKind} (hs : s.Healthy) (hb : s.graph.Built) (e : Engine)
  (hfacet : facet.source = .entity kind) (hn : n ∈ s.graph.nodes) (hlabel : kind.label ∈ n.labels)
  {text : String}

include hs hb hfacet hn hlabel

theorem fetchesAll_choosing (hnamed : n.get? "name" = some (.string text) ∨ n.id.text = text) :
    e.FetchesAll s (facet.choosing [text]) fun result => n.id.text ∈ result.nodes.map (·.id) :=
  fetchesAll_of_mem hs e ((hb.sound.mem_eligible_choosing hfacet hn hlabel).2 hnamed)

theorem fetch_choosing_misses
    (hnamed : ¬(n.get? "name" = some (.string text) ∨ n.id.text = text))
    (limit offset : Option Nat) :
    ∃ result, (e.fetch { filter := facet.choosing [text], limit, offset }).run s =
      (.ok result, s) ∧ n.id.text ∉ result.nodes.map (·.id) := by
  have hscoped : (facet.choosing [text]).constrainsRelationships = false := by
    rw [Bool.eq_false_iff, ne_eq, Facet.constrainsRelationships_choosing, hfacet]
    rintro ⟨_, heq⟩
    cases heq
  exact fetch_misses hs hb e hscoped hn
    (mt (hb.sound.mem_eligible_choosing hfacet hn hlabel).1 hnamed) limit offset

end Entities

/-- An offered text is found again exactly when it is stored as a text somewhere, so always where
only texts are stored. An offered entity is found again by identity, and by name unless a name
that is no text is shown as one. -/
theorem fetch_offered (hs : s.Healthy) (hb : s.graph.Built) (e : Engine) :
    ∃ o : FacetOptions, e.allOptions.run s = (.ok o, s) ∧
      (∀ facet texts, o.values? facet = some texts → ∀ text ∈ texts,
        (e.FetchesAll s (facet.choosing [text]) fun result =>
          (result.nodes ≠ [] ↔ s.graph.StoresText facet.source text)) ∧
        ((∀ v, s.graph.Reveals {} facet.source v → facet.source.Takes v) →
          s.graph.StoresText facet.source text)) ∧
      ∀ facet choices, o.entities? facet = some choices → ∀ c ∈ choices,
        (e.FetchesAll s (facet.choosing [c.id]) fun result => c.id ∈ result.nodes.map (·.id)) ∧
        ∃ n ∈ s.graph.nodes, n.id.text = c.id ∧
          (n.get? "name" = some (.string c.name) ∨ c.id = c.name →
            e.FetchesAll s (facet.choosing [c.name]) fun result =>
              c.id ∈ result.nodes.map (·.id)) ∧
          (¬(n.get? "name" = some (.string c.name) ∨ c.id = c.name) → ∀ limit offset, ∃ result,
            (e.fetch { filter := facet.choosing [c.name], limit, offset }).run s =
              (.ok result, s) ∧ c.id ∉ result.nodes.map (·.id)) := by
  have hsound := hb.sound
  refine ⟨s.graph.optionsOf {}, options_ok hs e {}, ?_, ?_⟩
  · intro facet texts htexts text htext
    obtain ⟨hfacet, rfl⟩ := FacetOptions.values?_eq_some.1 htexts
    obtain ⟨-, v, hv, hshows⟩ := hsound.mem_texts_optionsOf.1 htext
    refine ⟨?_, fun htakes => hv.storesText (htakes v hv) hshows⟩
    have hfetches := fetchesAll_nonempty hs e (facet.choosing [text])
    rwa [hsound.exists_mem_eligible hfacet] at hfetches
  · intro facet choices hchoices c hc
    obtain ⟨-, rfl⟩ := FacetOptions.entities?_eq_some.1 hchoices
    obtain ⟨n, hn, rfl⟩ := Graph.mem_entities_optionsOf.1 hc
    cases hsource : facet.source with
    | entity kind =>
      rw [hsource] at hn
      obtain ⟨hn, -, hlabel⟩ := hsound.mem_entitiesFor.1 hn
      exact ⟨fetchesAll_choosing hs hb e hsource hn hlabel (.inr rfl), n, hn, rfl,
        fetchesAll_choosing hs hb e hsource hn hlabel,
        fetch_choosing_misses hs hb e hsource hn hlabel⟩
    | _ => simp [hsource, Graph.entitiesFor] at hn

/-- In the sample one rank is a text and another a number. Both are offered, and only the text is
found again. -/
theorem fetch_offered_sample :
    MemoryStore.sample.Healthy ∧ MemoryStore.sample.graph.Built ∧
      ∃ o found missed, (allOptions {}).run MemoryStore.sample = (.ok o, MemoryStore.sample) ∧
        o.values? .rankValues = some ["3.5", "4"] ∧
        (fetch {} { filter := { rankValues := ["3.5"] } }).run MemoryStore.sample =
          (.ok found, MemoryStore.sample) ∧ found.nodes ≠ [] ∧
        (fetch {} { filter := { rankValues := ["4"] } }).run MemoryStore.sample =
          (.ok missed, MemoryStore.sample) ∧ missed.nodes = [] := by
  refine ⟨MemoryStore.healthy_sample, MemoryStore.built_sample, ?_⟩
  obtain ⟨o, hrun, htexts, -⟩ := fetch_offered MemoryStore.healthy_sample
    MemoryStore.built_sample {}
  have hvalues : o.values? .rankValues = some ["3.5", "4"] := by
    rw [optionsOf_of_run MemoryStore.healthy_sample hrun]
    exact Graph.values?_of_offer rfl (by decide +kernel)
  have hcovers (f : Filter) : (Page.ofRequest none none).Covers
      (MemoryStore.sample.graph.eligible f) :=
    Page.window_eq_self rfl ((Graph.length_eligible_le _ f).trans (by decide +kernel))
  obtain ⟨found, hfound, hnonempty⟩ :=
    (htexts .rankValues _ hvalues "3.5" (by decide)).1 none none .subject
  obtain ⟨missed, hmissed, hempty⟩ :=
    (htexts .rankValues _ hvalues "4" (by decide)).1 none none .subject
  have hstored : MemoryStore.sample.graph.StoresText (.rating "rankvalue") "3.5" :=
    ⟨_, Array.getElem_mem (i := 0) (by decide +kernel), rfl⟩
  have hnumber : ¬MemoryStore.sample.graph.StoresText (.rating "rankvalue") "4" := by
    rintro ⟨r, hr, hstored⟩
    have hnone : ∀ r ∈ MemoryStore.sample.graph.relationships,
        (r.get? "rankvalue").bind Value.asString ≠ some "4" := by decide +kernel
    exact hnone r hr (by rw [hstored]; rfl)
  refine ⟨o, found, missed, hrun, hvalues, hfound, (hnonempty (hcovers _)).2 hstored, hmissed, ?_⟩
  exact not_not.1 (mt (hempty (hcovers _)).1 hnumber)

/-- Not everything that is offered is found again: not the text of a number, nor an item of a list
on a relationship, nor a name that is a number. -/
theorem fetch_numbered :
    MemoryStore.numbered.Healthy ∧ MemoryStore.numbered.graph.Built ∧
      ∃ o, (allOptions {}).run MemoryStore.numbered = (.ok o, MemoryStore.numbered) ∧
        o.values? .channels = some ["5"] ∧ o.values? .rankGroups = some ["Gold", "Silver"] ∧
        o.entities? .products = some [⟨"0", "7"⟩] ∧
        ∀ f ∈ [Facet.channels.choosing ["5"], Facet.rankGroups.choosing ["Gold"],
            Facet.products.choosing ["7"]],
          ∃ result, (fetch {} { filter := f }).run MemoryStore.numbered =
            (.ok result, MemoryStore.numbered) ∧ result.nodes = [] := by
  have hs := MemoryStore.healthy_numbered
  refine ⟨hs, MemoryStore.built_numbered, _, options_ok hs {} {},
    Graph.values?_of_offer rfl (by decide +kernel), Graph.values?_of_offer rfl (by decide +kernel),
    Graph.entities?_of_offer rfl (by decide +kernel), fun f hf => ?_⟩
  have hnone : ((fetch {} { filter := f }).run MemoryStore.numbered).1.map
      (·.nodes.map (·.id)) = .ok [] := by
    simp only [List.mem_cons, List.not_mem_nil, or_false] at hf
    rcases hf with rfl | rfl | rfl <;> decide +kernel
  obtain ⟨_, _, hrun, -⟩ := fetch_eligible hs {} { filter := f }
  have hids := Call.view_of_run hrun hnone
  exact ⟨_, hrun, List.map_eq_nil_iff.1 hids⟩

end Engine

end FacetedGraph
