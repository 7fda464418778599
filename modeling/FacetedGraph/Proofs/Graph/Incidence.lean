import FacetedGraph.Proofs.Distinct
import FacetedGraph.Proofs.Fallible
import FacetedGraph.Proofs.Graph.Growth
import Mathlib.Data.List.Perm.Subperm

/-!
# Looking up in sound graphs

In a sound graph an identity leads to the one element that carries it, the elements stand in
ascending order, and the relationships that touch a node are found by their ends alone.

## Main statements

* `Graph.subperm_range` — there are only so many nodes.
* `Graph.Sound.node?_eq_some`, `Graph.Sound.relationship?_eq_some`.
* `Graph.Sound.mem_distinctNodes`, `Graph.Sound.mem_distinctRelationships` — first occurrences lose
  nothing of the graph.
* `Graph.Sound.ascends_nodeList` — nodes ascend by identity.
* `Graph.Sound.incident_eq`, `Graph.Sound.mem_incident`.
* `Graph.Sound.mem_steps` — a step leads over a relationship to its other end.
-/

namespace FacetedGraph

theorem NodeId.number_injective : Function.Injective NodeId.number :=
  fun ⟨_⟩ ⟨_⟩ h => congrArg NodeId.mk h

theorem RelationshipId.number_injective : Function.Injective RelationshipId.number :=
  fun ⟨_⟩ ⟨_⟩ h => congrArg RelationshipId.mk h

/-- Different nodes stand at different places. -/
theorem Graph.subperm_range {g : Graph} {ids : List NodeId} (hnodup : ids.Nodup)
    (hids : ∀ id ∈ ids, (g.node? id).isSome) :
    (ids.map NodeId.number).Subperm (List.range g.nodes.size) := by
  refine List.subperm_of_subset (hnodup.map NodeId.number_injective) fun i hi => ?_
  obtain ⟨id, hid, rfl⟩ := List.mem_map.1 hi
  simpa [node?] using hids id hid

namespace Graph.Sound

variable {g : Graph} (h : g.Sound)

include h

/-! ## Elements by identity -/

theorem node?_eq_some {id : NodeId} {n : Node} :
    g.node? id = some n ↔ n ∈ g.nodes ∧ n.id = id := by
  constructor
  · intro hn
    exact ⟨Array.mem_of_getElem? hn, h.node_id _ n hn⟩
  · rintro ⟨hn, rfl⟩
    obtain ⟨i, hi⟩ := Array.getElem?_of_mem hn
    rw [node?, h.node_id i n hi]
    exact hi

theorem relationship?_eq_some {id : RelationshipId} {r : Relationship} :
    g.relationship? id = some r ↔ r ∈ g.relationships ∧ r.id = id := by
  constructor
  · intro hr
    exact ⟨Array.mem_of_getElem? hr, h.relationship_id _ r hr⟩
  · rintro ⟨hr, rfl⟩
    obtain ⟨i, hi⟩ := Array.getElem?_of_mem hr
    rw [relationship?, h.relationship_id i r hi]
    exact hi

theorem node_ext {m n : Node} (hm : m ∈ g.nodes) (hn : n ∈ g.nodes) (heq : m.id = n.id) :
    m = n :=
  Option.some_inj.1 (((h.node?_eq_some).2 ⟨hm, heq⟩).symm.trans ((h.node?_eq_some).2 ⟨hn, rfl⟩))

theorem relationship_ext {r q : Relationship} (hr : r ∈ g.relationships)
    (hq : q ∈ g.relationships) (heq : r.id = q.id) : r = q :=
  Option.some_inj.1
    (((h.relationship?_eq_some).2 ⟨hr, heq⟩).symm.trans ((h.relationship?_eq_some).2 ⟨hq, rfl⟩))

theorem filterMap_node? (items : List Node) (hitems : ∀ n ∈ items, n ∈ g.nodes) :
    (items.map NodeOf.id).filterMap g.node? = items :=
  filterMap_map_eq_self fun n hn => (h.node?_eq_some).2 ⟨hitems n hn, rfl⟩

theorem mapM_node? (items : List Node) (hitems : ∀ n ∈ items, n ∈ g.nodes) :
    (items.map NodeOf.id).mapM g.node? = some items :=
  mapM_map_eq_pure fun n hn => (h.node?_eq_some).2 ⟨hitems n hn, rfl⟩

theorem filterMap_relationship? (items : List Relationship)
    (hitems : ∀ r ∈ items, r ∈ g.relationships) :
    (items.map RelationshipOf.id).filterMap g.relationship? = items :=
  filterMap_map_eq_self fun r hr => (h.relationship?_eq_some).2 ⟨hitems r hr, rfl⟩

theorem mapM_relationship? (items : List Relationship)
    (hitems : ∀ r ∈ items, r ∈ g.relationships) :
    (items.map RelationshipOf.id).mapM g.relationship? = some items :=
  mapM_map_eq_pure fun r hr => (h.relationship?_eq_some).2 ⟨hitems r hr, rfl⟩

/-- Where all identities are known, none is lost. -/
theorem map_id_filterMap_node? {ids : List NodeId} (hids : ∀ id ∈ ids, (g.node? id).isSome) :
    (ids.filterMap g.node?).map NodeOf.id = ids := by
  induction ids with
  | nil => rfl
  | cons id rest ih =>
    obtain ⟨n, hn⟩ := Option.isSome_iff_exists.1 (hids id List.mem_cons_self)
    rw [List.filterMap_cons_some hn, List.map_cons, ((h.node?_eq_some).1 hn).2,
      ih fun other hother => hids other (List.mem_cons_of_mem _ hother)]

/-! ## First occurrences of stored elements -/

theorem mem_distinctNodes {m : Node} {items : List Node} (hitems : ∀ n ∈ items, n ∈ g.nodes) :
    m ∈ distinctNodes items ↔ m ∈ items :=
  mem_firstBy fun a ha b hb heq => h.node_ext (hitems a ha) (hitems b hb) heq

theorem mem_distinctRelationships {r : Relationship} {items : List Relationship}
    (hitems : ∀ r ∈ items, r ∈ g.relationships) :
    r ∈ distinctRelationships items ↔ r ∈ items :=
  mem_firstBy fun a ha b hb heq => h.relationship_ext (hitems a ha) (hitems b hb) heq

/-! ## Order -/

theorem ascends_nodeList : Ascends (fun n : Node => n.id.number) g.nodeList := by
  refine ascends_of_getElem? fun i n hn => ?_
  rw [h.node_id i n (by simpa [nodeList] using hn)]

theorem ascends_relationships :
    Ascends (fun r : Relationship => r.id.number) g.relationships.toList := by
  refine ascends_of_getElem? fun i r hr => ?_
  rw [h.relationship_id i r (by simpa using hr)]

/-! ## Surroundings of a node -/

theorem isSome_node?_source {r : Relationship} (hr : r ∈ g.relationships) :
    (g.node? r.source).isSome := by
  simpa [node?] using h.source_lt r hr

theorem isSome_node?_target {r : Relationship} (hr : r ∈ g.relationships) :
    (g.node? r.target).isSome := by
  simpa [node?] using h.target_lt r hr

/-- Both ends of a relationship are nodes of the graph. -/
theorem isSome_node?_of_touches {r : Relationship} {id : NodeId} (hr : r ∈ g.relationships)
    (ht : r.touches id) : (g.node? id).isSome := by
  rcases Bool.or_eq_true_iff.1 ht with hs | ht
  · rw [beq_iff_eq.1 hs]
    exact h.isSome_node?_source hr
  · rw [beq_iff_eq.1 ht]
    exact h.isSome_node?_target hr

theorem incident_eq (id : NodeId) :
    g.incident id = g.relationships.toList.filter (Relationship.touches · id) := by
  obtain ⟨i⟩ := id
  unfold incident
  cases hi : g.incidence[i]? with
  | some ids =>
    rw [Option.getD_some, h.incidence_eq i ids hi]
    exact h.filterMap_relationship? _ fun r hr => Array.mem_toList_iff.1 (List.mem_filter.1 hr).1
  | none =>
    refine (List.filter_eq_nil_iff.2 fun r hr ht => ?_).symm
    have hsize := h.isSome_node?_of_touches (Array.mem_toList_iff.1 hr) ht
    rw [Array.getElem?_eq_none_iff, h.incidence_size] at hi
    simp [node?] at hsize
    omega

theorem mem_incident {id : NodeId} {r : Relationship} :
    r ∈ g.incident id ↔ r ∈ g.relationships ∧ r.touches id := by
  rw [h.incident_eq, List.mem_filter, Array.mem_toList_iff]

theorem mem_steps {id other : NodeId} {r : Relationship} :
    (r, other) ∈ g.steps id ↔ r ∈ g.relationships ∧ r.otherEnd id = some other := by
  simp only [steps, List.mem_filterMap, Option.map_eq_some_iff, Prod.mk.injEq]
  constructor
  · rintro ⟨q, hq, a, ha, rfl, rfl⟩
    exact ⟨((h.mem_incident).1 hq).1, ha⟩
  · rintro ⟨hr, ho⟩
    have ht : r.touches id := by rw [← Relationship.isSome_otherEnd, ho]; rfl
    exact ⟨r, (h.mem_incident).2 ⟨hr, ht⟩, other, ho, rfl, rfl⟩

/-- What lies at the other end of a relationship is a node of the graph. -/
theorem isSome_node?_of_otherEnd {r : Relationship} {id other : NodeId}
    (hr : r ∈ g.relationships) (ho : r.otherEnd id = some other) : (g.node? other).isSome := by
  refine h.isSome_node?_of_touches hr ?_
  rw [← Relationship.isSome_otherEnd, Relationship.otherEnd_symm ho]
  rfl

end Graph.Sound

end FacetedGraph
