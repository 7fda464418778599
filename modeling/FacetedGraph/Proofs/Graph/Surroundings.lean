import FacetedGraph.Proofs.Facet.Offer
import FacetedGraph.Proofs.Graph.Walk

/-!
# Surroundings of a node

A neighbourhood lists, ring by ring, the nodes around a node and the relationships that lead to
them. Put together the rings are a ball: the nodes within so many hops, with the relationships that
touch something less far away.

## Main definitions

* `Neighborhood.radius` — how many hops a neighbourhood reaches.
* `Graph.Adjacent` — a relationship leads from one node to another.

## Main statements

* `Graph.Sound.mem_nodesAround`, `Graph.Sound.mem_relationshipsAround` — what a neighbourhood lists.
* `Graph.Within.of_touches` — the ends of a relationship are at most one hop apart.
-/

namespace FacetedGraph

def Neighborhood.radius : Neighborhood → Nat
  | .subject => 0
  | .oneHop => 1
  | .twoHop => 2

namespace Graph

variable {g : Graph} {u v w : NodeId} {r : Relationship} {i : Nat}

def Adjacent (g : Graph) (u v : NodeId) : Prop := ∃ r ∈ g.relationships, r.otherEnd u = some v

/-! ## One hop further -/

theorem within_succ_iff :
    g.Within (i + 1) u w ↔ g.Within i u w ∨ ∃ v, g.Within i u v ∧ g.Adjacent v w :=
  within_succ

theorem within_one : g.Within 1 u v ↔ v = u ∨ g.Adjacent u v := by
  simp [within_succ_iff, within_zero]

theorem within_two : g.Within 2 u w ↔
    w = u ∨ g.Adjacent u w ∨ ∃ v, g.Adjacent u v ∧ g.Adjacent v w := by
  simp only [within_succ_iff (i := 1), within_one]
  grind

/-- The ends of a relationship are at most one hop apart. -/
theorem Within.of_touches (h : g.Within i u v) (hr : r ∈ g.relationships) (hv : r.touches v)
    (hw : r.touches w) : g.Within (i + 1) u w := by
  by_cases heq : v = w
  · subst heq
    exact h.mono (Nat.le_succ i)
  · exact within_succ_iff.2 (.inr ⟨v, h, r, hr, Relationship.otherEnd_of_touches hv hw heq⟩)

namespace Sound

variable (h : g.Sound) {m n : Node} {neighborhood : Neighborhood}

include h

/-! ## Rings -/

theorem mem_map_snd_steps : v ∈ (g.steps u).map Prod.snd ↔ g.Adjacent u v := by
  simp only [List.mem_map, Prod.exists, exists_eq_right, h.mem_steps, Adjacent]

theorem mem_farNodes_incident :
    m ∈ g.farNodes u (g.incident u) ↔ m ∈ g.nodes ∧ g.Adjacent u m.id := by
  rw [h.mem_farNodes]
  refine and_congr_right fun _ => ⟨fun ⟨r, hr, ho⟩ => ⟨r, (h.mem_incident.1 hr).1, ho⟩, ?_⟩
  rintro ⟨r, hr, ho⟩
  exact ⟨r, h.mem_incident.2 ⟨hr, (Relationship.touches_of_otherEnd ho).1⟩, ho⟩

/-! ## Neighbourhoods -/

/-- A node and its neighbourhood are what is within the hops of the neighbourhood. -/
theorem mem_nodesAround (hn : n ∈ g.nodes) :
    m ∈ n :: g.nodesAround n.id neighborhood ↔
      m ∈ g.nodes ∧ g.Within neighborhood.radius n.id m.id := by
  have hself : m = n ↔ m ∈ g.nodes ∧ m.id = n.id := by
    refine ⟨?_, fun ⟨hm, heq⟩ => h.node_ext hm hn heq⟩
    rintro rfl
    exact ⟨hn, rfl⟩
  have hfirst : m ∈ distinctNodes (g.farNodes n.id (g.incident n.id)) ↔
      m ∈ g.nodes ∧ g.Adjacent n.id m.id := by
    rw [h.mem_distinctNodes fun a ha => (h.mem_farNodes.1 ha).1, h.mem_farNodes_incident]
  have hsecond : m ∈ distinctNodes (((g.steps n.id).map Prod.snd).flatMap fun v =>
      g.farNodes v (g.incident v)) ↔
      m ∈ g.nodes ∧ ∃ v, g.Adjacent n.id v ∧ g.Adjacent v m.id := by
    have hring {a : Node} : a ∈ ((g.steps n.id).map Prod.snd).flatMap (fun v =>
        g.farNodes v (g.incident v)) ↔
        a ∈ g.nodes ∧ ∃ v, g.Adjacent n.id v ∧ g.Adjacent v a.id := by
      simp only [List.mem_flatMap, h.mem_map_snd_steps, h.mem_farNodes_incident]
      grind
    rw [h.mem_distinctNodes fun a ha => (hring.1 ha).1, hring]
  cases neighborhood with
  | subject => simp [nodesAround, Neighborhood.radius, within_zero, hself]
  | oneHop =>
    rw [List.mem_cons, nodesAround, Neighborhood.radius, within_one, hself, hfirst]
    grind
  | twoHop =>
    rw [List.mem_cons, nodesAround, Neighborhood.radius, within_two, List.mem_append, hself,
      hfirst, hsecond]
    grind

/-- The relationships of a neighbourhood are those with an end less than its hops away. -/
theorem mem_relationshipsAround :
    r ∈ g.relationshipsAround u neighborhood ↔
      r ∈ g.relationships ∧ ∃ v, r.touches v ∧ ∃ i < neighborhood.radius, g.Within i u v := by
  have hfirst : r ∈ distinctRelationships (g.incident u) ↔ r ∈ g.relationships ∧ r.touches u := by
    rw [h.mem_distinctRelationships fun q hq => (h.mem_incident.1 hq).1, h.mem_incident]
  have hsecond : r ∈ distinctRelationships (((g.steps u).map Prod.snd).flatMap g.incident) ↔
      r ∈ g.relationships ∧ ∃ v, r.touches v ∧ g.Adjacent u v := by
    have hring {q : Relationship} : q ∈ ((g.steps u).map Prod.snd).flatMap g.incident ↔
        q ∈ g.relationships ∧ ∃ v, q.touches v ∧ g.Adjacent u v := by
      simp only [List.mem_flatMap, h.mem_map_snd_steps, h.mem_incident]
      grind
    rw [h.mem_distinctRelationships fun q hq => (hring.1 hq).1, hring]
  cases neighborhood with
  | subject => simp [relationshipsAround, Neighborhood.radius]
  | oneHop => simp [relationshipsAround, Neighborhood.radius, hfirst, within_zero]
  | twoHop =>
    simp only [relationshipsAround, Neighborhood.radius, List.mem_append, hfirst, hsecond,
      Nat.exists_lt_succ_right, Nat.not_lt_zero, false_and, exists_false, false_or, within_zero,
      within_one]
    grind

end Sound

end Graph

end FacetedGraph
