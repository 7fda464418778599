import FacetedGraph.Store.Memory
import Mathlib.Tactic.Common

/-!
# Graphs that grow

A store starts with the empty graph and adds to it. What every graph has that comes about in this
way: identities are places, the next number is the next place, relationships end at nodes of the
graph, and the relationships noted at a node are the ones that touch it, in the order of their
creation.

## Main definitions

* `Graph.Built` — the graphs that come about by adding nodes and relationships.
* `Graph.Sound` — what all of them have in common.

## Main statements

* `Graph.createRelationship_cases` — what making a relationship takes and does.
* `Graph.Built.sound` — a graph that was built is sound.
* `Graph.Built.ascending_properties` — its nodes hold each key once.
* `MemoryStore.built_createNode`, `MemoryStore.built_createRelationship` — loading a store builds
  its graph.
-/

namespace FacetedGraph

namespace Graph

inductive Built : Graph → Prop
  | empty : Built .empty
  | node {g : Graph} (labels : List String) (properties : List (String × Value)) :
      Built g → Built (g.createNode labels properties).1
  | relationship {g g' : Graph} {source target : NodeId} {type : String}
      {properties : List (String × Value)} {id : RelationshipId} :
      Built g → g.createRelationship source target type properties = .ok (g', id) → Built g'

structure Sound (g : Graph) : Prop where
  nextNode_eq : g.nextNode = g.nodes.size
  nextRelationship_eq : g.nextRelationship = g.relationships.size
  node_id : ∀ (i : Nat) (n : Node), g.nodes[i]? = some n → n.id = ⟨i⟩
  relationship_id : ∀ (i : Nat) (r : Relationship), g.relationships[i]? = some r → r.id = ⟨i⟩
  source_lt : ∀ r ∈ g.relationships, r.source.number < g.nodes.size
  target_lt : ∀ r ∈ g.relationships, r.target.number < g.nodes.size
  incidence_size : g.incidence.size = g.nodes.size
  incidence_eq : ∀ (i : Nat) (ids : List RelationshipId), g.incidence[i]? = some ids →
    ids = (g.relationships.toList.filter (Relationship.touches · ⟨i⟩)).map RelationshipOf.id

/-! ## Growth keeps a graph sound -/

theorem sound_empty : Sound .empty := by
  constructor <;> simp [empty]

variable {g : Graph}

/-- Nothing touches a node that is yet to come. -/
theorem Sound.filter_touches_size (h : g.Sound) :
    g.relationships.toList.filter (Relationship.touches · ⟨g.nodes.size⟩) = [] := by
  refine List.filter_eq_nil_iff.2 fun r hr => ?_
  have hsource := h.source_lt r (Array.mem_toList_iff.1 hr)
  have htarget := h.target_lt r (Array.mem_toList_iff.1 hr)
  simp only [Relationship.touches, Bool.or_eq_true, beq_iff_eq]
  rintro (heq | heq)
  · simp [← heq] at hsource
  · simp [← heq] at htarget

theorem Sound.createNode (h : g.Sound) (labels : List String)
    (properties : List (String × Value)) : (g.createNode labels properties).1.Sound where
  nextNode_eq := by simp [Graph.createNode, h.nextNode_eq]
  nextRelationship_eq := h.nextRelationship_eq
  node_id i n hn := by
    simp only [Graph.createNode, Array.getElem?_push, h.nextNode_eq] at hn
    split at hn
    · cases hn; simp_all
    · exact h.node_id i n hn
  relationship_id := h.relationship_id
  source_lt r hr := by
    have := h.source_lt r hr
    simp only [Graph.createNode, Array.size_push]; omega
  target_lt r hr := by
    have := h.target_lt r hr
    simp only [Graph.createNode, Array.size_push]; omega
  incidence_size := by simp [Graph.createNode, h.incidence_size]
  incidence_eq i ids hi := by
    simp only [Graph.createNode, Array.getElem?_push] at hi
    split at hi
    · cases hi
      subst i
      rw [h.incidence_size]
      simp [Graph.createNode, h.filter_touches_size]
    · exact h.incidence_eq i ids hi

theorem getElem?_attach (incidence : Array (List RelationshipId)) (node : NodeId)
    (id : RelationshipId) (i : Nat) :
    (attach incidence node id)[i]? =
      (incidence[i]?).map fun ids => if node.number = i then ids ++ [id] else ids := by
  simp only [attach, Array.getElem?_modify]
  split <;> simp_all

/-- A relationship is noted once at each node that it touches. -/
theorem getElem?_attach_ends (incidence : Array (List RelationshipId)) (source target : NodeId)
    (id : RelationshipId) (i : Nat) :
    (if source = target then attach incidence source id
      else attach (attach incidence source id) target id)[i]? =
      (incidence[i]?).map fun ids =>
        if (⟨i⟩ : NodeId) = source ∨ (⟨i⟩ : NodeId) = target then ids ++ [id] else ids := by
  obtain ⟨s⟩ := source
  obtain ⟨t⟩ := target
  by_cases hst : s = t
  · subst hst
    simp only [if_true, getElem?_attach, NodeId.mk.injEq, or_self, eq_comm]
  · rw [if_neg (by simpa using hst), getElem?_attach, getElem?_attach, Option.map_map]
    congr 1
    funext ids
    simp only [Function.comp_apply, NodeId.mk.injEq]
    by_cases hs : s = i <;> by_cases ht : t = i <;> simp_all [eq_comm]

/-- What it takes to make a relationship, and what it leads to. -/
theorem createRelationship_cases {g' : Graph} {source target : NodeId} {type : String}
    {properties : List (String × Value)} {id : RelationshipId}
    (h : g.createRelationship source target type properties = .ok (g', id)) :
    source.number < g.nodes.size ∧ target.number < g.nodes.size ∧
      id = ⟨g.nextRelationship⟩ ∧
      g'.nodes = g.nodes ∧
      g'.relationships = g.relationships.push
        ⟨id, source, target, type, Fields.ofList properties⟩ ∧
      g'.incidence = (if source = target then attach g.incidence source id
        else attach (attach g.incidence source id) target id) ∧
      g'.nextNode = g.nextNode ∧ g'.nextRelationship = g.nextRelationship + 1 := by
  unfold createRelationship at h
  split at h
  · cases h
  rename_i hsource
  split at h
  · cases h
  rename_i htarget
  simp only [node?, Option.isNone_iff_eq_none, Array.getElem?_eq_none_iff, Nat.not_le]
    at hsource htarget
  cases h
  exact ⟨by omega, by omega, rfl, rfl, rfl, rfl, rfl, rfl⟩

theorem Sound.createRelationship (h : g.Sound) {g' : Graph} {source target : NodeId}
    {type : String} {properties : List (String × Value)} {id : RelationshipId}
    (made : g.createRelationship source target type properties = .ok (g', id)) : g'.Sound := by
  obtain ⟨hsource, htarget, rfl, hnodes, hrelationships, hincidence, hnextNode, hnext⟩ :=
    createRelationship_cases made
  constructor
  · rw [hnextNode, hnodes, h.nextNode_eq]
  · rw [hnext, hrelationships, Array.size_push, h.nextRelationship_eq]
  · rw [hnodes]; exact h.node_id
  · intro i r hr
    rw [hrelationships, Array.getElem?_push, h.nextRelationship_eq] at hr
    split at hr
    · cases hr; simp_all
    · exact h.relationship_id i r hr
  · intro r hr
    rw [hrelationships, Array.mem_push] at hr
    rw [hnodes]
    rcases hr with hr | rfl
    · exact h.source_lt r hr
    · exact hsource
  · intro r hr
    rw [hrelationships, Array.mem_push] at hr
    rw [hnodes]
    rcases hr with hr | rfl
    · exact h.target_lt r hr
    · exact htarget
  · rw [hincidence, hnodes, ← h.incidence_size]
    split <;> simp [attach]
  · intro i ids hi
    rw [hincidence, getElem?_attach_ends, Option.map_eq_some_iff] at hi
    obtain ⟨old, hold, rfl⟩ := hi
    rw [h.incidence_eq i old hold, hrelationships]
    simp only [Array.toList_push, List.filter_append, List.map_append]
    by_cases ht : (⟨i⟩ : NodeId) = source ∨ (⟨i⟩ : NodeId) = target <;>
      simp_all [Relationship.touches]

theorem Built.sound (h : g.Built) : g.Sound := by
  induction h with
  | empty => exact sound_empty
  | node labels properties _ ih => exact ih.createNode labels properties
  | relationship _ made ih => exact ih.createRelationship made

/-- The properties that a node is made with become ascending fields. -/
theorem Built.ascending_properties (h : g.Built) {n : Node} (hn : n ∈ g.nodes) :
    Fields.Ascending n.properties := by
  induction h with
  | empty => cases Array.not_mem_empty n hn
  | node labels properties _ ih =>
    rw [createNode, Array.mem_push] at hn
    rcases hn with hn | rfl
    · exact ih hn
    · exact Fields.ascending_ofList properties
  | relationship _ made ih =>
    obtain ⟨-, -, -, hnodes, -⟩ := createRelationship_cases made
    rw [hnodes] at hn
    exact ih hn

end Graph

/-! ## Loading a store -/

namespace MemoryStore

theorem built_createNode {s : MemoryStore} (h : s.graph.Built) (labels : List String)
    (properties : List (String × Value)) : (s.createNode labels properties).1.graph.Built :=
  .node labels properties h

theorem built_createRelationship {s : MemoryStore} (h : s.graph.Built) (source target : NodeId)
    (type : String) (properties : List (String × Value)) :
    (s.createRelationship source target type properties).1.graph.Built := by
  unfold createRelationship
  split
  · exact .relationship h ‹_›
  · exact h

end MemoryStore

end FacetedGraph
