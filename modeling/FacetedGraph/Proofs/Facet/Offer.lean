import FacetedGraph.Graph.Offer
import FacetedGraph.Proofs.Fetch

/-!
# What is offered around a selection

The options of a selection come from its scope: the nodes that it admits, and the nodes that share
a relationship with one of them. Ratings are those of the admitted nodes.

## Main definitions

* `Value.Shows` — a stored value is shown as a text, or has an item that is.
* `Graph.InScope` — a node is admitted or shares a relationship with an admitted one.
* `Graph.Reveals` — a value is stored where a facet looks for texts.

## Main statements

* `mem_optionTexts` — the texts that stored values offer.
* `Graph.Sound.mem_scope`, `Graph.Sound.mem_storedFor`, `Graph.Sound.mem_entitiesFor`.
-/

namespace FacetedGraph

/-! ## Texts of stored values -/

def Value.Shows (v : Value) (text : String) : Prop :=
  v.queryString = some text ∨
    ∃ items, v = .list items ∧ ∃ item ∈ items, item.queryString = some text

theorem Value.exists_mem_elements_iff {v : Value} {text : String} :
    (∃ item ∈ v.elements, item.queryString = some text) ↔ v.Shows text := by
  cases v <;> simp [elements, Shows, queryString]

theorem mem_optionTexts {stored : List Value} {text : String} :
    text ∈ optionTexts stored ↔ text ≠ "" ∧ ∃ v ∈ stored, v.Shows text := by
  simp only [optionTexts, mem_ascending, List.mem_filter, List.mem_filterMap, List.mem_flatMap,
    decide_eq_true_eq, ← Value.exists_mem_elements_iff]
  constructor
  · rintro ⟨⟨item, ⟨v, hv, hitem⟩, htext⟩, hne⟩
    exact ⟨hne, v, hv, item, hitem, htext⟩
  · rintro ⟨hne, v, hv, item, hitem, htext⟩
    exact ⟨⟨item, ⟨v, hv, hitem⟩, htext⟩, hne⟩

/-! ## Selections -/

namespace Filter

variable (f : Filter)

/-- The relationship dimensions play no part in what a filter admits. -/
theorem admits_nodeScoped {n : Node} : f.nodeScoped.Admits n ↔ f.Admits n := by
  rw [admits_iff, admits_iff]
  exact Iff.rfl

theorem admitsRelationship_nodeScoped (r : Relationship) :
    f.nodeScoped.AdmitsRelationship r where
  rating _ h := by cases h
  change := .inl rfl
  group := .inl rfl
  rank := .inl rfl
  order _ h := by cases h

theorem conditions_none (subject var : String) (h : f.constrainsRelationships = false) :
    f.conditions subject none = .ok (f.compiled subject var) := by
  rw [← f.conditions_some subject var, conditions, conditions, h]
  rfl

end Filter

/-! ## Scope -/

theorem Relationship.otherEnd_of_touches {r : Relationship} {u v : NodeId} (hu : r.touches u)
    (hv : r.touches v) (hne : u ≠ v) : r.otherEnd u = some v := by
  simp only [touches, Bool.or_eq_true, beq_iff_eq] at hu hv
  unfold otherEnd
  grind

theorem Relationship.touches_of_otherEnd {r : Relationship} {u v : NodeId}
    (h : r.otherEnd u = some v) : r.touches u ∧ r.touches v := by
  rw [← isSome_otherEnd, ← isSome_otherEnd, h, otherEnd_symm h]
  exact ⟨rfl, rfl⟩

namespace Graph

variable {g : Graph} {f : Filter} {n : Node} {r : Relationship}

def InScope (g : Graph) (f : Filter) (n : Node) : Prop :=
  f.Admits n ∨
    ∃ m ∈ g.nodes, f.Admits m ∧ ∃ r ∈ g.relationships, r.touches m.id ∧ r.touches n.id

/-- A selection meets a value where a facet looks for texts: on a node in its scope, or on a rating
of an admitted node. -/
def Reveals (g : Graph) (f : Filter) : FacetSource → Value → Prop
  | .property d, v => ∃ n ∈ g.nodes, g.InScope f n ∧ ∃ key ∈ d.keys, n.get? key = some v
  | .rating key, v => ∃ r ∈ g.relationships, r.type = ratingType ∧
      (∃ n ∈ g.nodes, f.Admits n ∧ r.touches n.id) ∧ r.get? key = some v
  | .entity _, _ => False

theorem Sound.mem_neighbors (h : g.Sound) {id v : NodeId} :
    v ∈ g.neighbors id ↔ v ≠ id ∧ ∃ r ∈ g.relationships, r.otherEnd id = some v := by
  simp only [neighbors, mem_distinct, List.mem_filter, List.mem_map, Prod.exists,
    exists_eq_right, h.mem_steps, decide_eq_true_eq]
  exact and_comm

/-- Where the nodes of a scope come from. -/
noncomputable def scopeIds (g : Graph) (f : Filter) : List NodeId :=
  ascendingBy NodeId.number ((g.admitted f).flatMap fun n => n.id :: g.neighbors n.id)

theorem Sound.mem_scopeIds (h : g.Sound) {v : NodeId} :
    v ∈ g.scopeIds f ↔ ∃ m ∈ g.nodes, f.Admits m ∧
      (v = m.id ∨ ∃ r ∈ g.relationships, r.touches m.id ∧ r.touches v) := by
  rw [scopeIds, mem_ascendingBy fun a _ b _ heq => NodeId.number_injective heq]
  simp only [List.mem_flatMap, List.mem_cons, h.mem_neighbors, mem_admitted]
  constructor
  · rintro ⟨m, ⟨hm, hf⟩, rfl | ⟨-, r, hr, ho⟩⟩
    · exact ⟨m, hm, hf, .inl rfl⟩
    · exact ⟨m, hm, hf, .inr ⟨r, hr, Relationship.touches_of_otherEnd ho⟩⟩
  · rintro ⟨m, hm, hf, hv⟩
    refine ⟨m, ⟨hm, hf⟩, ?_⟩
    by_cases heq : v = m.id
    · exact .inl heq
    · obtain ⟨r, hr, htm, htv⟩ := hv.resolve_left heq
      exact .inr ⟨heq, r, hr, Relationship.otherEnd_of_touches htm htv (Ne.symm heq)⟩

theorem Sound.mem_scope (h : g.Sound) :
    n ∈ g.scope (g.admitted f) ↔ n ∈ g.nodes ∧ g.InScope f n := by
  change n ∈ (g.scopeIds f).filterMap g.node? ↔ _
  simp only [List.mem_filterMap, h.mem_scopeIds, h.node?_eq_some, InScope]
  constructor
  · rintro ⟨_, ⟨m, hm, hf, heq | ⟨r, hr, ht⟩⟩, hn, rfl⟩
    · exact ⟨hn, .inl (h.node_ext hn hm heq ▸ hf)⟩
    · exact ⟨hn, .inr ⟨m, hm, hf, r, hr, ht⟩⟩
  · rintro ⟨hn, hf | ⟨m, hm, hf, r, hr, ht⟩⟩
    · exact ⟨n.id, ⟨n, hn, hf, .inl rfl⟩, hn, rfl⟩
    · exact ⟨n.id, ⟨m, hm, hf, .inr ⟨r, hr, ht⟩⟩, hn, rfl⟩

theorem Sound.nodup_scope (h : g.Sound) (f : Filter) :
    ((g.scope (g.admitted f)).map NodeOf.id).Nodup := by
  have hids : (g.scope (g.admitted f)).map NodeOf.id = g.scopeIds f := by
    refine h.map_id_filterMap_node? fun v hv => ?_
    obtain ⟨m, hm, -, rfl | ⟨r, hr, -, ht⟩⟩ := h.mem_scopeIds.1 hv
    · rw [h.node?_eq_some.2 ⟨hm, rfl⟩]
      rfl
    · exact h.isSome_node?_of_touches hr ht
  rw [hids]
  exact .of_map NodeId.number (ascends_ascendingBy _ _).nodup_map

theorem Sound.mem_ratings (h : g.Sound) :
    r ∈ g.ratings (g.admitted f) ↔
      r ∈ g.relationships ∧ r.type = ratingType ∧
        ∃ n ∈ g.nodes, f.Admits n ∧ r.touches n.id := by
  have hall {r : Relationship} :
      r ∈ ((g.admitted f).flatMap fun n => g.incident n.id).filter (·.type == ratingType) ↔
        r ∈ g.relationships ∧ r.type = ratingType ∧
          ∃ n ∈ g.nodes, f.Admits n ∧ r.touches n.id := by
    simp only [List.mem_filter, List.mem_flatMap, mem_admitted, h.mem_incident, beq_iff_eq]
    constructor
    · rintro ⟨⟨n, ⟨hn, hf⟩, hr, ht⟩, htype⟩
      exact ⟨hr, htype, n, hn, hf, ht⟩
    · rintro ⟨hr, htype, n, hn, hf, ht⟩
      exact ⟨⟨n, ⟨hn, hf⟩, hr, ht⟩, htype⟩
  rw [ratings, mem_ascendingBy, hall]
  intro r hr q hq heq
  exact h.relationship_ext (hall.1 hr).1 (hall.1 hq).1 (RelationshipId.number_injective heq)

/-! ## Rows of a facet -/

section Rows

variable (f)

theorem admitted_nodeScoped : g.admitted f.nodeScoped = g.admitted f :=
  List.filter_congr fun n _ => by simp [f.admits_nodeScoped]

/-- The values that are stored where a facet looks for texts. -/
noncomputable def storedFor (g : Graph) (f : Filter) : FacetSource → List Value
  | .property d => (g.scope (g.admitted f)).flatMap fun n => d.keys.filterMap n.get?
  | .rating key => (g.ratings (g.admitted f)).filterMap (·.get? key)
  | .entity _ => []

/-- The nodes that a facet offers as entities. -/
noncomputable def entitiesFor (g : Graph) (f : Filter) : FacetSource → List Node
  | .entity kind => (g.scope (g.admitted f)).filter (·.hasLabel kind.label)
  | _ => []

noncomputable def offered (g : Graph) (f : Filter) (source : FacetSource) : List Row :=
  match source with
  | .entity _ => ((g.entitiesFor f source).mergeSort namedBefore).map entityRow
  | _ => (optionTexts (g.storedFor f source)).map textRow

theorem offer_compiled (subject var : String) (source : FacetSource) :
    g.offer (f.nodeScoped.compiled subject var) source = .ok (g.offered f source) := by
  rw [offer, subjects_compiled, admitted_nodeScoped]
  cases source <;> rfl

end Rows

section Members

variable (h : g.Sound)

include h

theorem Sound.mem_storedFor {source : FacetSource} {v : Value} :
    v ∈ g.storedFor f source ↔ g.Reveals f source v := by
  cases source with
  | property d =>
    simp only [storedFor, Reveals, List.mem_flatMap, List.mem_filterMap, h.mem_scope, and_assoc]
  | rating key => simp only [storedFor, Reveals, List.mem_filterMap, h.mem_ratings, and_assoc]
  | entity kind => simp only [storedFor, Reveals, List.not_mem_nil]

theorem Sound.mem_entitiesFor {kind : EntityKind} {n : Node} :
    n ∈ g.entitiesFor f (.entity kind) ↔
      n ∈ g.nodes ∧ g.InScope f n ∧ kind.label ∈ n.labels := by
  simp only [entitiesFor, List.mem_filter, h.mem_scope, Node.hasLabel, List.contains_iff_mem,
    and_assoc]

theorem Sound.nodup_entitiesFor (kind : EntityKind) :
    ((g.entitiesFor f (.entity kind)).map NodeOf.id).Nodup :=
  (h.nodup_scope f).sublist (List.filter_sublist.map _)

end Members

end Graph

end FacetedGraph
