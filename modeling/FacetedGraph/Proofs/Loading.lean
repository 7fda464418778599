import FacetedGraph.Proofs.Connections
import FacetedGraph.Proofs.Graph.Incidence

/-!
# Graphs that clients load

A client adds to the graph of its store in the course of whatever else it does. What it has added
stands in the graph in the order in which it was added, numbered from zero, and the relationships
noted at a node are those that end there. What could not be added leaves no trace.

## Main definitions

* `nodeMade?`, `relationshipMade?` — what an action added, by its outcome.

## Main statements

* `Client.graph_act` — what one action does to the graph.
* `Graph.Sound.incidence` — what is noted at a node.
* `Client.graph_recorded` — the graph after any actions.
-/

namespace FacetedGraph

/-- The node that an action has made. -/
def nodeMade? : Action × Outcome → Option Node
  | (.createNode labels properties, .node id) =>
    some ⟨id, labels, Fields.ofList properties⟩
  | _ => none

/-- The relationship that an action has made. -/
def relationshipMade? : Action × Outcome → Option Relationship
  | (.createRelationship source target type properties, .relationship id) =>
    some ⟨id, source, target, type, Fields.ofList properties⟩
  | _ => none

/-! ## Numbers -/

theorem Relationship.touches_iff {r : Relationship} {id : NodeId} :
    r.touches id ↔ r.source = id ∨ r.target = id := by
  rw [touches, Bool.or_eq_true, beq_iff_eq, beq_iff_eq, eq_comm, @eq_comm _ id]

namespace Graph.Sound

variable {g : Graph} (h : g.Sound)

include h

theorem ids_nodeList : g.nodeList.map NodeOf.id = (List.range g.nodes.size).map NodeId.mk := by
  refine List.ext_getElem (by simp [nodeList]) fun i hi _ => ?_
  have hsize : i < g.nodes.size := by simpa [nodeList] using hi
  simpa [nodeList] using h.node_id i g.nodes[i] (Array.getElem?_eq_getElem hsize)

theorem ids_relationships : g.relationships.toList.map RelationshipOf.id =
    (List.range g.relationships.size).map RelationshipId.mk := by
  refine List.ext_getElem (by simp) fun i hi _ => ?_
  have hsize : i < g.relationships.size := by simpa using hi
  simpa using h.relationship_id i g.relationships[i] (Array.getElem?_eq_getElem hsize)

/-- The identities in use are the ones that lead to a node. -/
theorem isSome_node?_iff {id : NodeId} :
    (g.node? id).isSome ↔ id ∈ g.nodeList.map NodeOf.id := by
  rw [Option.isSome_iff_exists, List.mem_map]
  simp only [h.node?_eq_some, nodeList, Array.mem_toList_iff]

/-- At each node the relationships are noted that end there, in ascending order. -/
theorem incidence {id : NodeId} (hid : id ∈ g.nodeList.map NodeOf.id) :
    ∃ ids, g.incidence[id.number]? = some ids ∧ Ascends RelationshipId.number ids ∧
      ∀ k, k ∈ ids ↔ ∃ r ∈ g.relationships, r.id = k ∧ (r.source = id ∨ r.target = id) := by
  have hsize : id.number < g.incidence.size := by
    rw [h.incidence_size]
    simpa [node?] using h.isSome_node?_iff.2 hid
  have hnoted := Array.getElem?_eq_getElem hsize
  have heq := h.incidence_eq id.number _ hnoted
  refine ⟨_, hnoted, ?_, fun k => ?_⟩
  · rw [heq, ascends_map]
    exact h.ascends_relationships.filter _
  · rw [heq]
    simp only [List.mem_map, List.mem_filter, Array.mem_toList_iff, Relationship.touches_iff]
    constructor
    · rintro ⟨r, ⟨hr, hends⟩, hk⟩
      exact ⟨r, hr, hk, hends⟩
    · rintro ⟨r, hr, hk, hends⟩
      exact ⟨r, ⟨hr, hends⟩, hk⟩

end Graph.Sound

namespace Client

variable (c : Client)

/-! ## One action -/

/-- An action makes a node, or it makes a relationship, or it leaves the graph alone. -/
theorem graph_act (a : Action) :
    (∃ labels properties, a = .createNode labels properties ∧
      (c.act a).1 = .node ⟨c.store.graph.nextNode⟩ ∧
      (c.act a).2.store.graph = (c.store.graph.createNode labels properties).1) ∨
    (∃ source target type properties g id, a = .createRelationship source target type properties ∧
      c.store.graph.createRelationship source target type properties = .ok (g, id) ∧
      (c.act a).1 = .relationship id ∧ (c.act a).2.store.graph = g) ∨
    (nodeMade? (a, (c.act a).1) = none ∧ relationshipMade? (a, (c.act a).1) = none ∧
      (c.act a).2.store.graph = c.store.graph) := by
  cases a with
  | createNode labels properties => exact .inl ⟨labels, properties, rfl, rfl, rfl⟩
  | createRelationship source target type properties =>
    simp only [act, MemoryStore.createRelationship]
    cases hmade : c.store.graph.createRelationship source target type properties with
    | ok made => exact .inr (.inl ⟨_, _, _, _, _, _, rfl, hmade, rfl, rfl⟩)
    | error e => exact .inr (.inr ⟨rfl, rfl, rfl⟩)
  | acquire name =>
    refine .inr (.inr ⟨rfl, rfl, ?_⟩)
    cases hs : c.store.available with
    | false => simp [act, c.hold_offline hs]
    | true =>
      simp only [act, c.hold_online hs, letGo]
      split <;> rfl
  | release name =>
    refine .inr (.inr ⟨rfl, rfl, ?_⟩)
    simp only [act, letGo]
    split <;> rfl
  | pingOver name =>
    refine .inr (.inr ⟨rfl, rfl, ?_⟩)
    simp only [act]
    split <;> rfl
  | runOver name query =>
    refine .inr (.inr ⟨rfl, rfl, ?_⟩)
    simp only [act]
    split <;> rfl
  | call operation =>
    obtain ⟨answer, hact, -⟩ := c.act_call operation
    exact .inr (.inr ⟨rfl, rfl, by rw [hact]⟩)
  | _ => exact .inr (.inr ⟨rfl, rfl, rfl⟩)

theorem built_act (h : c.store.graph.Built) (a : Action) : (c.act a).2.store.graph.Built := by
  obtain ⟨labels, properties, -, -, hgraph⟩ |
    ⟨source, target, type, properties, g, id, -, hmade, -, hgraph⟩ | ⟨-, -, hgraph⟩ := c.graph_act a
  · exact hgraph ▸ .node labels properties h
  · exact hgraph ▸ .relationship h hmade
  · exact hgraph ▸ h

/-- An action adds what it has made at the end. -/
theorem nodeList_act (a : Action) :
    (c.act a).2.store.graph.nodeList =
      c.store.graph.nodeList ++ (nodeMade? (a, (c.act a).1)).toList := by
  obtain ⟨labels, properties, rfl, houtcome, hgraph⟩ |
    ⟨source, target, type, properties, g, id, rfl, hmade, houtcome, hgraph⟩ |
    ⟨hnode, -, hgraph⟩ := c.graph_act a
  · rw [houtcome, hgraph]
    exact Array.toList_push
  · obtain ⟨-, -, -, hnodes, -⟩ := Graph.createRelationship_cases hmade
    rw [houtcome, hgraph, Graph.nodeList, hnodes]
    exact (List.append_nil _).symm
  · rw [hnode, hgraph]
    exact (List.append_nil _).symm

theorem relationships_act (a : Action) :
    (c.act a).2.store.graph.relationships.toList =
      c.store.graph.relationships.toList ++ (relationshipMade? (a, (c.act a).1)).toList := by
  obtain ⟨labels, properties, rfl, houtcome, hgraph⟩ |
    ⟨source, target, type, properties, g, id, rfl, hmade, houtcome, hgraph⟩ |
    ⟨-, hrelationship, hgraph⟩ := c.graph_act a
  · rw [houtcome, hgraph]
    exact (List.append_nil _).symm
  · obtain ⟨-, -, rfl, -, hrelationships, -⟩ := Graph.createRelationship_cases hmade
    rw [houtcome, hgraph, hrelationships]
    exact Array.toList_push
  · rw [hrelationship, hgraph]
    exact (List.append_nil _).symm

/-! ## Relationships that cannot be made -/

section Unmade

variable {source target : NodeId} (type : String) (properties : List (String × Value))

theorem act_createRelationship_error {e : Error}
    (h : c.store.graph.createRelationship source target type properties = .error e) :
    c.act (.createRelationship source target type properties) = (.failed e, c) := by
  simp only [act, MemoryStore.createRelationship, h]
  rfl

theorem act_unknown_source (hsource : c.store.graph.node? source = none) :
    c.act (.createRelationship source target type properties) =
      (.failed (.notFound (.sourceNode source)), c) := by
  apply act_createRelationship_error
  simp [Graph.createRelationship, hsource]

theorem act_unknown_target (hsource : (c.store.graph.node? source).isSome)
    (htarget : c.store.graph.node? target = none) :
    c.act (.createRelationship source target type properties) =
      (.failed (.notFound (.targetNode target)), c) := by
  apply act_createRelationship_error
  simp [Graph.createRelationship, Option.isSome_iff_ne_none.1 hsource, htarget]

theorem act_known (hsource : (c.store.graph.node? source).isSome)
    (htarget : (c.store.graph.node? target).isSome) :
    (c.act (.createRelationship source target type properties)).1 =
      .relationship ⟨c.store.graph.nextRelationship⟩ := by
  simp [act, MemoryStore.createRelationship, Graph.createRelationship,
    Option.isSome_iff_ne_none.1 hsource, Option.isSome_iff_ne_none.1 htarget, Outcome.ofExcept]

end Unmade

/-! ## Many actions -/

theorem built_actAll (h : c.store.graph.Built) (actions : List Action) :
    (c.actAll actions).2.store.graph.Built := by
  induction actions generalizing c with
  | nil => exact h
  | cons a rest ih => exact ih _ (c.built_act h a)

/-- What grows at its end by what each action makes has in the end what all of them made. -/
theorem actAll_appends {α : Type} (view : Client → List α) {made? : Action × Outcome → Option α}
    (hact : ∀ c a, view (c.act a).2 = view c ++ (made? (a, (c.act a).1)).toList)
    (actions : List Action) :
    view (c.actAll actions).2 =
      view c ++ (actions.zip (c.actAll actions).1).filterMap made? := by
  induction actions generalizing c with
  | nil => exact (List.append_nil _).symm
  | cons a rest ih =>
    simp only [actAll, List.zip_cons_cons, List.filterMap_eq_flatMap_toList, List.flatMap_cons]
    rw [ih, hact, List.append_assoc, List.filterMap_eq_flatMap_toList]

/-- Whatever was done, the graph has what was made, in the order in which it was made and numbered
from zero, and it counts on from there. Relationships end at nodes of the graph, and at each node
those are noted that end there, each once and in ascending order. A relationship with an unknown
end, where the source counts first, cannot be made and leaves the client as it was; every other one
gets the next number. -/
theorem graph_recorded (actions : List Action) :
    let run := ({} : Client).actAll actions
    let c := run.2
    let g := c.store.graph
    let record := actions.zip run.1
    let known := g.nodeList.map NodeOf.id
    g.nodeList = record.filterMap nodeMade? ∧
    known = (List.range g.nodes.size).map NodeId.mk ∧ g.nextNode = g.nodes.size ∧
    g.relationships.toList = record.filterMap relationshipMade? ∧
    g.relationships.toList.map RelationshipOf.id =
      (List.range g.relationships.size).map RelationshipId.mk ∧
    g.nextRelationship = g.relationships.size ∧
    (∀ r ∈ g.relationships, r.source ∈ known ∧ r.target ∈ known) ∧
    (∀ id ∈ known, ∃ ids, g.incidence[id.number]? = some ids ∧
      Ascends RelationshipId.number ids ∧
      ∀ k, k ∈ ids ↔ ∃ r ∈ g.relationships, r.id = k ∧ (r.source = id ∨ r.target = id)) ∧
    ∀ source target type properties,
      let made := c.act (.createRelationship source target type properties)
      (source ∉ known → made = (.failed (.notFound (.sourceNode source)), c)) ∧
      (source ∈ known → target ∉ known → made = (.failed (.notFound (.targetNode target)), c)) ∧
      (source ∈ known → target ∈ known → made.1 = .relationship ⟨g.relationships.size⟩) := by
  intro run c g record known
  have hsound : g.Sound := (built_actAll {} .empty actions).sound
  have hknown (id : NodeId) : id ∈ known ↔ (g.node? id).isSome := hsound.isSome_node?_iff.symm
  have hunknown (id : NodeId) : id ∉ known ↔ g.node? id = none := by
    rw [hknown, Option.not_isSome_iff_eq_none]
  refine ⟨?_, hsound.ids_nodeList, hsound.nextNode_eq, ?_, hsound.ids_relationships,
    hsound.nextRelationship_eq, fun r hr => ⟨?_, ?_⟩, fun id hid => hsound.incidence hid, ?_⟩
  · exact actAll_appends {} (fun c => c.store.graph.nodeList) nodeList_act actions
  · exact actAll_appends {} (fun c => c.store.graph.relationships.toList) relationships_act actions
  · exact (hknown _).2 (hsound.isSome_node?_source hr)
  · exact (hknown _).2 (hsound.isSome_node?_target hr)
  · intro source target type properties made
    refine ⟨fun hsource => ?_, fun hsource htarget => ?_, fun hsource htarget => ?_⟩
    · exact c.act_unknown_source type properties ((hunknown _).1 hsource)
    · exact c.act_unknown_target type properties ((hknown _).1 hsource) ((hunknown _).1 htarget)
    · rw [← hsound.nextRelationship_eq]
      exact c.act_known type properties ((hknown _).1 hsource) ((hknown _).1 htarget)

end Client

end FacetedGraph
