import FacetedGraph.Graph.Influence
import FacetedGraph.Proofs.Result.Elements

/-!
# Influence networks as patterns

The network of a consultant is told by the chains that make it up: employment leads to field
consultants, these lead to what they cover, and that leads to what it owns; rating leads to
products at once. A chain is followed from source to target only.

## Main definitions

* `Graph.Leads` — a link of a type from a node to one with any of some labels.
* `Graph.Network` — the links of the network of a node.
* `Graph.networkNodes`, `Graph.networkRelationships` — the nodes that they lead to, and the
  relationships that they lead over.

## Main statements

* `Graph.Sound.mem_outgoing`, `Graph.Sound.mem_networkParts` — the links that are listed.
* `Graph.Sound.mem_nodes_influenceRow`, `Graph.Sound.mem_relationships_influenceRow` — what the row
  of a consultant holds.
-/

namespace FacetedGraph

namespace Graph

/-- A relationship of the graph starts at a node, is of a type and ends at the node of the link,
which has one of the labels. -/
structure Leads (g : Graph) (u : NodeId) (type : String) (labels : List String) (l : Link) :
    Prop where
  stored : l.1 ∈ g.relationships
  source : l.1.source = u
  type_eq : l.1.type = type
  node : l.2 ∈ g.nodes
  target : l.1.target = l.2.id
  label : ∃ label ∈ labels, l.2.hasLabel label

/-- The last links of the chains that start at a consultant. -/
inductive Network (g : Graph) (c : NodeId) : Link → Prop
  | employed {f : Link} : g.Leads c "EMPLOYS" ["FIELD_CONSULTANT"] f → Network g c f
  | covered {f x : Link} : g.Leads c "EMPLOYS" ["FIELD_CONSULTANT"] f →
      g.Leads f.2.id "COVERS" ["COMPANY", "PRODUCT"] x → Network g c x
  | owned {f x p : Link} : g.Leads c "EMPLOYS" ["FIELD_CONSULTANT"] f →
      g.Leads f.2.id "COVERS" ["COMPANY", "PRODUCT"] x →
      g.Leads x.2.id "OWNS" ["PRODUCT"] p → Network g c p
  | rated {q : Link} : g.Leads c "RATES" ["PRODUCT"] q → Network g c q

/-- What the links of a network lead to. -/
def networkNodes (g : Graph) (c : NodeId) : Set Node := {n | ∃ r, g.Network c (r, n)}

def networkRelationships (g : Graph) (c : NodeId) : Set Relationship :=
  {r | ∃ n, g.Network c (r, n)}

/-- The row of a consultant without the consultant, over which its reach is counted. -/
def networkRow (g : Graph) (id : NodeId) : Row where
  columns := [
    ("connected_nodes", .ofNodes ((g.networkParts id).flatMap fun part =>
      distinctNodes (part.map Prod.snd))),
    ("relationships", .ofRelationships ((g.networkParts id).flatMap fun part =>
      distinctRelationships (part.map Prod.fst)))]

variable {g : Graph} {u c : NodeId} {type : String} {labels : List String} {l : Link}

theorem Network.stored (h : g.Network c l) : l.1 ∈ g.relationships ∧ l.2 ∈ g.nodes := by
  cases h with
  | employed hl => exact ⟨hl.stored, hl.node⟩
  | covered _ hl => exact ⟨hl.stored, hl.node⟩
  | owned _ _ hl => exact ⟨hl.stored, hl.node⟩
  | rated hl => exact ⟨hl.stored, hl.node⟩

/-- Each link of a network starts at the consultant, or where another link ends. -/
theorem Network.ends (h : g.Network c l) :
    l.1.target = l.2.id ∧ (l.1.source = c ∨ ∃ k, g.Network c k ∧ l.1.source = k.2.id) := by
  cases h with
  | employed hl => exact ⟨hl.target, .inl hl.source⟩
  | covered hf hl => exact ⟨hl.target, .inr ⟨_, .employed hf, hl.source⟩⟩
  | owned hf hx hl => exact ⟨hl.target, .inr ⟨_, .covered hf hx, hl.source⟩⟩
  | rated hl => exact ⟨hl.target, .inl hl.source⟩

namespace Sound

variable (h : g.Sound)

include h

/-! ## Links -/

theorem mem_outgoing : l ∈ g.outgoing u type labels ↔ g.Leads u type labels l := by
  obtain ⟨r, n⟩ := l
  simp only [outgoing, List.mem_filter, List.mem_filterMap, Option.map_eq_some_iff,
    Prod.mk.injEq, Bool.and_eq_true, beq_iff_eq, List.any_eq_true, h.mem_incident,
    h.node?_eq_some]
  constructor
  · rintro ⟨⟨q, ⟨⟨hstored, -⟩, hsource, htype⟩, m, ⟨hm, htarget⟩, rfl, rfl⟩, hlabel⟩
    exact ⟨hstored, hsource, htype, hm, htarget.symm, hlabel⟩
  · rintro ⟨hstored, hsource, htype, hm, htarget, hlabel⟩
    have htouches : r.touches u := by simp [Relationship.touches, ← hsource]
    exact ⟨⟨r, ⟨⟨hstored, htouches⟩, hsource, htype⟩, n, ⟨hm, htarget.symm⟩, rfl, rfl⟩, hlabel⟩

theorem mem_networkParts : (∃ part ∈ g.networkParts c, l ∈ part) ↔ g.Network c l := by
  simp only [networkParts, List.mem_cons, List.not_mem_nil, or_false, exists_eq_or_imp,
    exists_eq_left, employed, covered, owned, rated, List.mem_flatMap, h.mem_outgoing]
  constructor
  · rintro (hl | ⟨f, hf, hl⟩ | ⟨x, ⟨f, hf, hx⟩, hl⟩ | hl)
    · exact .employed hl
    · exact .covered hf hl
    · exact .owned hf hx hl
    · exact .rated hl
  · rintro (hl | ⟨hf, hl⟩ | ⟨hf, hx, hl⟩ | hl)
    · exact .inl hl
    · exact .inr (.inl ⟨_, hf, hl⟩)
    · exact .inr (.inr (.inl ⟨_, ⟨_, hf, hx⟩, hl⟩))
    · exact .inr (.inr (.inr hl))

/-- What the links of a network show by a key is there, although each part lists its own once. -/
theorem mem_parts {α κ : Type} [DecidableEq κ] {key : α → κ} {view : Link → α} {a : α}
    (hkey : ∀ k l, g.Network c k → g.Network c l → key (view k) = key (view l) →
      view k = view l) :
    a ∈ (g.networkParts c).flatMap (fun part => firstBy key (part.map view)) ↔
      ∃ l, g.Network c l ∧ view l = a := by
  have hpart {part : List Link} (hpart : part ∈ g.networkParts c) :
      a ∈ firstBy key (part.map view) ↔ ∃ l ∈ part, view l = a := by
    rw [mem_firstBy, List.mem_map]
    intro _ ha _ hb heq
    obtain ⟨k, hk, rfl⟩ := List.mem_map.1 ha
    obtain ⟨l, hl, rfl⟩ := List.mem_map.1 hb
    exact hkey k l (h.mem_networkParts.1 ⟨part, hpart, hk⟩) (h.mem_networkParts.1 ⟨part, hpart, hl⟩)
      heq
  simp only [List.mem_flatMap, ← h.mem_networkParts]
  constructor
  · rintro ⟨part, hmem, ha⟩
    obtain ⟨l, hl, heq⟩ := (hpart hmem).1 ha
    exact ⟨l, ⟨part, hmem, hl⟩, heq⟩
  · rintro ⟨l, ⟨part, hmem, hl⟩, heq⟩
    exact ⟨part, hmem, (hpart hmem).2 ⟨l, hl, heq⟩⟩

theorem mem_reachedNodes {n : Node} :
    n ∈ (g.networkParts c).flatMap (fun part => distinctNodes (part.map Prod.snd)) ↔
      n ∈ g.networkNodes c := by
  refine (h.mem_parts fun _ _ hk hl => h.node_ext hk.stored.2 hl.stored.2).trans ?_
  simp [networkNodes, Prod.exists]

theorem mem_followedRelationships {r : Relationship} :
    r ∈ (g.networkParts c).flatMap (fun part => distinctRelationships (part.map Prod.fst)) ↔
      r ∈ g.networkRelationships c := by
  refine (h.mem_parts fun _ _ hk hl => h.relationship_ext hk.stored.1 hl.stored.1).trans ?_
  simp [networkRelationships, Prod.exists]

/-- There are only so many nodes in a network. -/
theorem finite_networkNodes : (g.networkNodes c).Finite :=
  (List.finite_toSet _).subset fun _ hn => h.mem_reachedNodes.2 hn

/-! ## Rows -/

theorem mem_nodes_networkRow {n : Node} : n ∈ (g.networkRow c).nodes ↔ n ∈ g.networkNodes c := by
  have hnodes : (g.networkRow c).nodes = (g.networkParts c).flatMap fun part =>
      distinctNodes (part.map Prod.snd) := by
    simp [Row.nodes, Row.values, networkRow]
  rw [hnodes, h.mem_reachedNodes]

theorem mem_relationships_networkRow {r : Relationship} :
    r ∈ (g.networkRow c).relationships ↔ r ∈ g.networkRelationships c := by
  have hrelationships : (g.networkRow c).relationships = (g.networkParts c).flatMap fun part =>
      distinctRelationships (part.map Prod.fst) := by
    simp [Row.relationships, Row.values, networkRow]
  rw [hrelationships, h.mem_followedRelationships]

theorem storedIn_networkRow (c : NodeId) : (g.networkRow c).StoredIn g where
  nodes m hm := by
    obtain ⟨r, hr⟩ := h.mem_nodes_networkRow.1 hm
    exact hr.stored.2
  relationships r hr := by
    obtain ⟨m, hm⟩ := h.mem_relationships_networkRow.1 hr
    exact hm.stored.1

theorem mem_nodes_influenceRow {n m : Node} :
    m ∈ (g.influenceRow n).nodes ↔ m = n ∨ m ∈ g.networkNodes n.id := by
  have hnodes : (g.influenceRow n).nodes = n :: (g.networkRow n.id).nodes := rfl
  rw [hnodes, List.mem_cons, h.mem_nodes_networkRow]

theorem mem_relationships_influenceRow {n : Node} {r : Relationship} :
    r ∈ (g.influenceRow n).relationships ↔ r ∈ g.networkRelationships n.id :=
  h.mem_relationships_networkRow

theorem storedIn_influenceRow {n : Node} (hn : n ∈ g.nodes) : (g.influenceRow n).StoredIn g where
  nodes := List.forall_mem_cons.2 ⟨hn, (h.storedIn_networkRow n.id).nodes⟩
  relationships := (h.storedIn_networkRow n.id).relationships

end Sound

end Graph

end FacetedGraph
