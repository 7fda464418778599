import FacetedGraph.Proofs.Calls
import FacetedGraph.Proofs.Fields
import FacetedGraph.Proofs.Result.Occurrences

/-!
# The answer of an influence network

An answer holds the consultants among the listed nodes and what their networks hold. The reach of a
consultant does not depend on who else is listed. It counts nodes by type, which is the first label
of a node, although the network asks for any label: a field consultant with another label before it
is in the network and is not counted.

## Main definitions

* `Graph.Consulted` — the listed nodes that are consultants.
* `InfluenceResult.Shows` — what a result has to show of a graph.
* `Reach.counts` — the counts of nodes, by label.

## Main statements

* `Graph.Sound.consultants_congr` — order and repetition of the list do not matter.
* `Engine.influence_shows` — the answer shows the networks and nothing else.
* `Graph.Sound.count_of_mem_counts`, `Graph.Sound.totalRelationships_reachOf` — what a reach counts.
* `Engine.influence_reach` — when a reach counts all nodes with a label.
-/

namespace FacetedGraph

/-- The counts of nodes, by the label that they are for. -/
def Reach.counts (reach : Reach) : List (String × Nat) :=
  [("COMPANY", reach.companiesInfluenced), ("PRODUCT", reach.productsInfluenced),
    ("FIELD_CONSULTANT", reach.fieldConsultantsManaged)]

namespace Graph

/-- A node is among the listed ones and is a consultant. -/
def Consulted (g : Graph) (listed : List NodeId) (c : Node) : Prop :=
  c ∈ g.nodes ∧ c.id ∈ listed ∧ c.hasLabel "CONSULTANT"

variable {g : Graph} {listed : List NodeId} {c n : Node} {id : NodeId}

theorem consultants_congr {again : List NodeId} (h : ∀ id, id ∈ again ↔ id ∈ listed) :
    g.consultants again = g.consultants listed := by
  rw [consultants, ascendingBy_congr NodeId.number_injective h, consultants]

namespace Sound

variable (h : g.Sound)

include h

/-! ## Consultants -/

theorem mem_consultants : c ∈ g.consultants listed ↔ g.Consulted listed c := by
  simp only [consultants, List.mem_filter, List.mem_filterMap, h.node?_eq_some, Consulted,
    mem_ascendingBy fun _ _ _ _ heq => NodeId.number_injective heq]
  constructor
  · rintro ⟨⟨_, hlisted, hc, rfl⟩, hlabel⟩
    exact ⟨hc, hlisted, hlabel⟩
  · rintro ⟨hc, hlisted, hlabel⟩
    exact ⟨⟨c.id, hlisted, hc, rfl⟩, hlabel⟩

theorem ascends_consultants : Ascends (fun c : Node => c.id.number) (g.consultants listed) := by
  refine ((ascends_ascendingBy NodeId.number listed).filterMap g.node? ?_).filter _
  intro a b hlt m hm n hn
  obtain ⟨-, rfl⟩ := h.node?_eq_some.1 hm
  obtain ⟨-, rfl⟩ := h.node?_eq_some.1 hn
  exact hlt

theorem consultants_singleton (hc : c ∈ g.nodes) (hlabel : c.hasLabel "CONSULTANT") :
    g.consultants [c.id] = [c] := by
  have hsorted : ascendingBy NodeId.number [c.id] = [c.id] := rfl
  rw [consultants, hsorted, List.filterMap_cons_some (h.node?_eq_some.2 ⟨hc, rfl⟩)]
  exact List.filter_cons_of_pos hlabel

/-- Each consultant has a name of its own. -/
theorem nodup_texts_consultants : ((g.consultants listed).map fun c => c.id.text).Nodup := by
  have hids : ((g.consultants listed).map NodeOf.id).Nodup := by
    refine .of_map NodeId.number ?_
    rw [List.map_map]
    exact h.ascends_consultants.nodup_map
  have htexts := hids.map fun _ _ => NodeId.text_injective
  rwa [List.map_map] at htexts

theorem mem_influence {row : Row} :
    row ∈ g.influence listed ↔ ∃ c, g.Consulted listed c ∧ g.influenceRow c = row := by
  have hrows : g.influence listed = (g.consultants listed).map g.influenceRow := rfl
  simp only [hrows, List.mem_map, h.mem_consultants]

theorem storedIn_influence : ∀ row ∈ g.influence listed, row.StoredIn g := by
  intro row hrow
  obtain ⟨c, hc, rfl⟩ := h.mem_influence.1 hrow
  exact h.storedIn_influenceRow hc.1

/-! ## Counts of a reach -/

/-- What is counted over a network counts nodes of the network. -/
theorem countP_networkRow (id : NodeId) (p : NodeView → Bool) :
    (Subgraph.ofRows [g.networkRow id]).nodes.countP p =
      {n ∈ g.networkNodes id | p (.ofNode n)}.ncard := by
  rw [h.countP_nodes_ofRows (List.forall_mem_singleton.2 (h.storedIn_networkRow id))]
  simp only [List.mem_singleton, exists_eq_left, h.mem_nodes_networkRow]

theorem countOfType_networkRow {label : String} (hlabel : label ≠ unknownType) :
    Engine.countOfType (Subgraph.ofRows [g.networkRow id]) label =
      {n ∈ g.networkNodes id | n.primaryLabel = some label}.ncard := by
  have htype (n : Node) :
      (NodeView.ofNode n).type = label ↔ n.primaryLabel = some label := by
    rw [NodeView.ofNode]
    cases n.primaryLabel <;> simp [hlabel.symm]
  rw [Engine.countOfType, h.countP_networkRow]
  simp only [beq_iff_eq, htype]

theorem count_of_mem_counts {label : String} {count : Nat}
    (hcount : (label, count) ∈ (g.reachOf id).counts) :
    count = {n ∈ g.networkNodes id | n.primaryLabel = some label}.ncard := by
  simp only [Reach.counts, reachOf, List.mem_cons, List.not_mem_nil, or_false, Prod.mk.injEq]
    at hcount
  obtain ⟨rfl, hcount⟩ | ⟨rfl, hcount⟩ | ⟨rfl, hcount⟩ := hcount
  all_goals exact hcount.trans (h.countOfType_networkRow (by decide))

theorem totalRelationships_reachOf :
    (g.reachOf id).totalRelationships = {r ∈ g.networkRelationships id | r.touches id}.ncard := by
  have htouches (r : Relationship) :
      (r.source.text == id.text || r.target.text == id.text) = true ↔ r.touches id := by
    have htext (end_ : NodeId) : end_.text = id.text ↔ id = end_ :=
      ⟨fun heq => (NodeId.text_injective heq).symm, fun heq => heq ▸ rfl⟩
    simp only [Relationship.touches, Bool.or_eq_true, beq_iff_eq, htext]
  simp only [reachOf]
  rw [h.countP_edges_ofRows (List.forall_mem_singleton.2 (h.storedIn_networkRow id))]
  simp only [List.mem_singleton, exists_eq_left, h.mem_relationships_networkRow,
    EdgeView.ofRelationship, htouches]

end Sound

end Graph

/-! ## Answers -/

/-- A result shows the listed consultants with what their networks hold, all of it once and nothing
else. -/
structure InfluenceResult.Shows (result : InfluenceResult) (g : Graph) (listed : List NodeId) :
    Prop where
  nodes : ∀ view, view ∈ result.graph.nodes ↔ ∃ c, g.Consulted listed c ∧
    ∃ n, (n = c ∨ n ∈ g.networkNodes c.id) ∧ NodeView.ofNode n = view
  edges : ∀ view, view ∈ result.graph.edges ↔ ∃ c, g.Consulted listed c ∧
    ∃ r ∈ g.networkRelationships c.id, EdgeView.ofRelationship r = view
  nodup_nodes : (result.graph.nodes.map (·.id)).Nodup
  nodup_edges : (result.graph.edges.map (·.id)).Nodup

namespace Graph.Sound

variable {g : Graph} {listed : List NodeId}

theorem shows_influence (h : g.Sound) (reach : Fields Reach) :
    InfluenceResult.Shows ⟨Subgraph.ofRows (g.influence listed), reach⟩ g listed where
  nodes view := by
    rw [h.mem_nodes_ofRows h.storedIn_influence]
    simp only [h.mem_influence, exists_exists_and_eq_and, h.mem_nodes_influenceRow]
  edges view := by
    rw [h.mem_edges_ofRows h.storedIn_influence]
    simp only [h.mem_influence, exists_exists_and_eq_and, h.mem_relationships_influenceRow]
  nodup_nodes := Subgraph.nodup_ids_nodes _
  nodup_edges := Subgraph.nodup_ids_edges _

/-- An answer has one entry for each consultant. -/
theorem mem_reaches (h : g.Sound) {entry : String × Reach} :
    entry ∈ g.reaches listed ↔
      ∃ c, g.Consulted listed c ∧ (c.id.text, g.reachOf c.id) = entry := by
  have hnodup : (((g.consultants listed).map fun c =>
      (c.id.text, g.reachOf c.id)).map Prod.fst).Nodup := by
    rw [List.map_map]
    exact h.nodup_texts_consultants
  rw [reaches, (Fields.perm_ofList hnodup).mem_iff, List.mem_map]
  simp only [h.mem_consultants]

theorem mem_names_reaches (h : g.Sound) {name : String} :
    name ∈ (g.reaches listed).names ↔ ∃ c, g.Consulted listed c ∧ c.id.text = name := by
  rw [Fields.names, List.mem_map]
  simp only [h.mem_reaches, exists_exists_and_eq_and]

theorem get?_reaches (h : g.Sound) {c : Node} (hc : g.Consulted listed c) :
    (g.reaches listed).get? c.id.text = some (g.reachOf c.id) :=
  (Fields.get?_eq_some_iff (Fields.ascending_ofList _)).2 (h.mem_reaches.2 ⟨c, hc, rfl⟩)

end Graph.Sound

namespace MemoryStore

/-- A consultant and a second one, who is a field consultant as well and employs itself, share a
field consultant and a product. -/
def shared : MemoryStore :=
  let s := (({} : MemoryStore).createNode ["CONSULTANT"] []).1
  let s := (s.createNode ["ADVISOR", "FIELD_CONSULTANT"] []).1
  let s := (s.createNode ["COMPANY"] []).1
  let s := (s.createNode ["PRODUCT"] []).1
  let s := (s.createNode ["FIELD_CONSULTANT", "CONSULTANT"] []).1
  let s := (s.createRelationship ⟨0⟩ ⟨1⟩ "EMPLOYS" []).1
  let s := (s.createRelationship ⟨4⟩ ⟨1⟩ "EMPLOYS" []).1
  let s := (s.createRelationship ⟨4⟩ ⟨4⟩ "EMPLOYS" []).1
  let s := (s.createRelationship ⟨1⟩ ⟨2⟩ "COVERS" []).1
  let s := (s.createRelationship ⟨2⟩ ⟨3⟩ "OWNS" []).1
  let s := (s.createRelationship ⟨0⟩ ⟨3⟩ "RATES" []).1
  (s.createRelationship ⟨4⟩ ⟨3⟩ "COVERS" []).1

theorem healthy_shared : shared.Healthy := ⟨rfl, rfl, rfl⟩

theorem built_shared : shared.graph.Built := by
  repeat' first | exact .empty | apply built_createRelationship | apply built_createNode

theorem consulted_shared :
    shared.graph.Consulted [⟨4⟩, ⟨0⟩, ⟨2⟩, ⟨4⟩] ⟨⟨4⟩, ["FIELD_CONSULTANT", "CONSULTANT"], []⟩ :=
  built_shared.sound.mem_consultants.1 (List.mem_of_getElem? (i := 1) rfl)

/-- A consultant employs a field consultant with a label before that one. -/
def tagged : MemoryStore :=
  let s := (({} : MemoryStore).createNode ["CONSULTANT"] []).1
  let s := (s.createNode ["ADVISOR", "FIELD_CONSULTANT"] []).1
  (s.createRelationship ⟨0⟩ ⟨1⟩ "EMPLOYS" []).1

theorem healthy_tagged : tagged.Healthy := ⟨rfl, rfl, rfl⟩

theorem built_tagged : tagged.graph.Built := by
  repeat' first | exact .empty | apply built_createRelationship | apply built_createNode

end MemoryStore

namespace Engine

variable {s : MemoryStore}

/-- A consultant that is listed alone has the only entry. -/
theorem influence_singleton (hs : s.Healthy) (hsound : s.graph.Sound) (e : Engine) {c : Node}
    {listed : List NodeId} (hc : s.graph.Consulted listed c) :
    (e.influence [c.id]).run s =
      (.ok ⟨Subgraph.ofRows (s.graph.influence [c.id]), [(c.id.text, s.graph.reachOf c.id)]⟩,
        s) := by
  rw [influence_eq hs e (List.cons_ne_nil _ _), Graph.reaches,
    hsound.consultants_singleton hc.1 hc.2.2]
  rfl

/-- An answer shows the networks of the listed consultants. It has one entry for each of them, the
one that the consultant has when it is listed alone. Order and repetition of the list do not
matter. -/
theorem influence_shows (hs : s.Healthy) (hb : s.graph.Built) (e : Engine) {listed : List NodeId}
    (hlisted : listed ≠ []) :
    ∃ result, (e.influence listed).run s = (.ok result, s) ∧ result.Shows s.graph listed ∧
      result.reach.names.Nodup ∧
      (∀ name, name ∈ result.reach.names ↔ ∃ c, s.graph.Consulted listed c ∧ c.id.text = name) ∧
      (∀ c, s.graph.Consulted listed c → ∃ single reach,
        (e.influence [c.id]).run s = (.ok single, s) ∧ single.reach = [(c.id.text, reach)] ∧
        Fields.get? result.reach c.id.text = some reach) ∧
      ∀ again : List NodeId, (∀ id, id ∈ again ↔ id ∈ listed) →
        (e.influence again).run s = (.ok result, s) := by
  have hsound := hb.sound
  refine ⟨_, influence_eq hs e hlisted, hsound.shows_influence _,
    (Fields.ascending_ofList _).nodup_names, fun name => hsound.mem_names_reaches, ?_, ?_⟩
  · intro c hc
    exact ⟨_, _, influence_singleton hs hsound e hc, rfl, hsound.get?_reaches hc⟩
  · intro again hagain
    have hsome : again ≠ [] := by
      obtain ⟨id, hid⟩ := List.exists_mem_of_ne_nil _ hlisted
      exact List.ne_nil_of_mem ((hagain id).2 hid)
    have hrows : s.graph.influence again = s.graph.influence listed :=
      congrArg (List.map s.graph.influenceRow) (Graph.consultants_congr hagain)
    rw [influence_eq hs e hsome, Graph.reaches, Graph.consultants_congr hagain, hrows]
    rfl

theorem view_influence_shared :
    ((influence {} [⟨4⟩, ⟨0⟩, ⟨2⟩, ⟨4⟩]).run MemoryStore.shared).1.map (fun result =>
      (result.graph.nodes.map (·.id), result.graph.edges.map (·.id), result.reach)) =
    .ok (["0", "1", "2", "3", "4"], ["0", "3", "4", "5", "1", "2", "6"],
      [("0", ⟨1, 1, 0, 2⟩), ("4", ⟨1, 1, 1, 3⟩)]) := by
  decide +kernel

theorem influence_shows_shared :
    MemoryStore.shared.Healthy ∧ MemoryStore.shared.graph.Built ∧
      ([⟨4⟩, ⟨0⟩, ⟨2⟩, ⟨4⟩] : List NodeId) ≠ [] ∧
      ∃ result, (influence {} [⟨4⟩, ⟨0⟩, ⟨2⟩, ⟨4⟩]).run MemoryStore.shared =
          (.ok result, MemoryStore.shared) ∧
        (influence {} [⟨0⟩, ⟨2⟩, ⟨4⟩]).run MemoryStore.shared = (.ok result, MemoryStore.shared) ∧
        result.Shows MemoryStore.shared.graph [⟨4⟩, ⟨0⟩, ⟨2⟩, ⟨4⟩] ∧
        result.graph.nodes.map (·.id) = ["0", "1", "2", "3", "4"] ∧
        result.graph.edges.map (·.id) = ["0", "3", "4", "5", "1", "2", "6"] ∧
        result.reach = [("0", ⟨1, 1, 0, 2⟩), ("4", ⟨1, 1, 1, 3⟩)] := by
  obtain ⟨result, hrun, hshows, -, -, -, hagain⟩ := influence_shows MemoryStore.healthy_shared
    MemoryStore.built_shared {} (List.cons_ne_nil (⟨4⟩ : NodeId) [⟨0⟩, ⟨2⟩, ⟨4⟩])
  have hview := Call.view_of_run hrun view_influence_shared
  simp only [Prod.mk.injEq] at hview
  exact ⟨MemoryStore.healthy_shared, MemoryStore.built_shared, List.cons_ne_nil _ _, result, hrun,
    hagain _ (by grind), hshows, hview⟩

/-- What a reach counts over the network of its consultant. A node is counted by its first label, so
one that carries a label behind another one is missed. -/
theorem influence_reach (hs : s.Healthy) (hb : s.graph.Built) (e : Engine) {listed : List NodeId}
    {c : Node} (hc : s.graph.Consulted listed c) :
    ∃ result reach, (e.influence listed).run s = (.ok result, s) ∧
      Fields.get? result.reach c.id.text = some reach ∧
      reach.totalRelationships =
        {r ∈ s.graph.networkRelationships c.id | r.touches c.id}.ncard ∧
      ∀ label count, (label, count) ∈ reach.counts →
        count = {n ∈ s.graph.networkNodes c.id | n.primaryLabel = some label}.ncard ∧
        (count = {n ∈ s.graph.networkNodes c.id | n.hasLabel label}.ncard ↔
          ∀ n ∈ s.graph.networkNodes c.id, n.hasLabel label → n.primaryLabel = some label) := by
  have hsound := hb.sound
  refine ⟨_, _, influence_eq hs e (List.ne_nil_of_mem hc.2.1), hsound.get?_reaches hc,
    hsound.totalRelationships_reachOf, fun label count hcount => ?_⟩
  have hprimary := hsound.count_of_mem_counts hcount
  refine ⟨hprimary, ?_⟩
  rw [hprimary, ncard_sep_eq_iff hsound.finite_networkNodes]
  intro n _ hfirst
  exact List.contains_iff_mem.2 (List.mem_of_head? hfirst)

theorem influence_reach_shared :
    MemoryStore.shared.Healthy ∧ MemoryStore.shared.graph.Built ∧
      ∃ c result reach, MemoryStore.shared.graph.Consulted [⟨4⟩, ⟨0⟩, ⟨2⟩, ⟨4⟩] c ∧
        (influence {} [⟨4⟩, ⟨0⟩, ⟨2⟩, ⟨4⟩]).run MemoryStore.shared =
          (.ok result, MemoryStore.shared) ∧
        Fields.get? result.reach c.id.text = some reach ∧ reach = ⟨1, 1, 1, 3⟩ ∧
        3 = {r ∈ MemoryStore.shared.graph.networkRelationships c.id | r.touches c.id}.ncard ∧
        1 = {n ∈ MemoryStore.shared.graph.networkNodes c.id |
          n.primaryLabel = some "FIELD_CONSULTANT"}.ncard := by
  have hc := MemoryStore.consulted_shared
  obtain ⟨result, reach, hrun, hreach, htotal, hcounts⟩ := influence_reach
    MemoryStore.healthy_shared MemoryStore.built_shared {} hc
  have hview := Call.view_of_run hrun view_influence_shared
  simp only [Prod.mk.injEq] at hview
  have hentry : Fields.get? [("0", ⟨1, 1, 0, 2⟩), ("4", ⟨1, 1, 1, 3⟩)] (NodeId.text ⟨4⟩) =
      some (⟨1, 1, 1, 3⟩ : Reach) := by decide +kernel
  have hsecond : reach = ⟨1, 1, 1, 3⟩ := by
    rw [hview.2.2] at hreach
    exact Option.some.inj (hreach.symm.trans hentry)
  subst hsecond
  exact ⟨MemoryStore.healthy_shared, MemoryStore.built_shared, _, result, _, hc, hrun, hreach, rfl,
    htotal, (hcounts "FIELD_CONSULTANT" 1 (by decide)).1⟩

/-- A field consultant with another label before it is in the network and is not counted. -/
theorem influence_reach_tagged :
    MemoryStore.tagged.Healthy ∧ MemoryStore.tagged.graph.Built ∧
      ∃ c result reach, MemoryStore.tagged.graph.Consulted [⟨0⟩] c ∧
        (influence {} [⟨0⟩]).run MemoryStore.tagged = (.ok result, MemoryStore.tagged) ∧
        Fields.get? result.reach c.id.text = some reach ∧ reach.fieldConsultantsManaged = 0 ∧
        {n ∈ MemoryStore.tagged.graph.networkNodes c.id | n.hasLabel "FIELD_CONSULTANT"}.ncard =
          1 := by
  have hsound := MemoryStore.built_tagged.sound
  have hc : MemoryStore.tagged.graph.Consulted [⟨0⟩] ⟨⟨0⟩, ["CONSULTANT"], []⟩ :=
    hsound.mem_consultants.1 (List.mem_of_getElem? (i := 0) rfl)
  have hmanaged : (MemoryStore.tagged.graph.reachOf ⟨0⟩).fieldConsultantsManaged = 0 := by
    decide +kernel
  have hcount := hsound.countP_networkRow ⟨0⟩ fun n => n.labels.contains "FIELD_CONSULTANT"
  have hone : (Subgraph.ofRows [MemoryStore.tagged.graph.networkRow ⟨0⟩]).nodes.countP
      (fun n => n.labels.contains "FIELD_CONSULTANT") = 1 := by decide +kernel
  exact ⟨MemoryStore.healthy_tagged, MemoryStore.built_tagged, _, _, _, hc,
    influence_eq MemoryStore.healthy_tagged {} (List.cons_ne_nil _ _), hsound.get?_reaches hc,
    hmanaged, hcount.symm.trans hone⟩

end Engine

end FacetedGraph
