import FacetedGraph.Proofs.Calls
import FacetedGraph.Proofs.Counting
import FacetedGraph.Proofs.Graph.Surroundings

/-!
# The detail of a node

The detail of a node has each relationship that touches the node once, a loop like any other. The
number beside them goes over the same relationships and takes the far end of each, so a node that
several relationships lead to is counted several times.

## Main definitions

* `Graph.adjacentNodes` — the nodes at the far ends, each once.
* `Graph.NoParallel` — no two relationships lead from a node to the same one.

## Main statements

* `Graph.Sound.map_id_farNodes` — each relationship has a far end in the graph.
* `Graph.Sound.nodup_farNodes_incident` — when the far ends are different nodes.
* `Engine.detail_shows` — what a detail holds.
-/

namespace FacetedGraph

namespace Graph

variable {g : Graph} {u : NodeId} {r : Relationship}

/-- The nodes at the far ends of the relationships that touch a node. -/
def adjacentNodes (g : Graph) (u : NodeId) : Set Node := {m | m ∈ g.nodes ∧ g.Adjacent u m.id}

/-- No two relationships lead from a node to the same one. -/
def NoParallel (g : Graph) (u : NodeId) : Prop :=
  ∀ r ∈ g.relationships, ∀ q ∈ g.relationships, r.touches u → q.touches u →
    r.otherEnd u = q.otherEnd u → r = q

namespace Sound

variable (h : g.Sound)

include h

/-! ## Relationships -/

theorem ascends_incident (u : NodeId) :
    Ascends (fun r : Relationship => r.id.number) (g.incident u) := by
  rw [h.incident_eq]
  exact h.ascends_relationships.filter _

theorem nodup_incident (u : NodeId) : (g.incident u).Nodup :=
  .of_map _ (h.ascends_incident u).nodup_map

theorem mem_incident_iff_ends :
    r ∈ g.incident u ↔ r ∈ g.relationships ∧ (r.source = u ∨ r.target = u) := by
  rw [h.mem_incident, Relationship.touches, Bool.or_eq_true, beq_iff_eq, beq_iff_eq, eq_comm,
    eq_comm (a := u)]

/-! ## Far ends -/

/-- None of the relationships leads out of the graph. -/
theorem map_id_farNodes {rs : List Relationship}
    (hrs : ∀ r ∈ rs, r ∈ g.relationships ∧ r.touches u) :
    (g.farNodes u rs).map (fun m => some m.id) = rs.map (·.otherEnd u) := by
  induction rs with
  | nil => rfl
  | cons r rest ih =>
    obtain ⟨⟨hr, htouches⟩, hrest⟩ := List.forall_mem_cons.1 hrs
    rw [← Relationship.isSome_otherEnd] at htouches
    obtain ⟨v, hv⟩ := Option.isSome_iff_exists.1 htouches
    obtain ⟨m, hm⟩ := Option.isSome_iff_exists.1 (h.isSome_node?_of_otherEnd hr hv)
    have hfar : (r.otherEnd u).bind g.node? = some m := by rw [hv, Option.bind_some, hm]
    have hcons : g.farNodes u (r :: rest) = m :: g.farNodes u rest :=
      List.filterMap_cons_some hfar
    rw [hcons, List.map_cons, List.map_cons, hv, (h.node?_eq_some.1 hm).2, ih hrest]

theorem map_id_farNodes_incident (u : NodeId) :
    (g.farNodes u (g.incident u)).map (fun m => some m.id) =
      (g.incident u).map (·.otherEnd u) :=
  h.map_id_farNodes fun _ hr => h.mem_incident.1 hr

theorem length_farNodes_incident (u : NodeId) :
    (g.farNodes u (g.incident u)).length = (g.incident u).length := by
  simpa using congrArg List.length (h.map_id_farNodes_incident u)

theorem nodup_farNodes_incident : (g.farNodes u (g.incident u)).Nodup ↔ g.NoParallel u := by
  have hids : (g.farNodes u (g.incident u)).Nodup ↔
      ((g.incident u).map (·.otherEnd u)).Nodup := by
    rw [← h.map_id_farNodes_incident]
    refine ⟨fun hnodup => hnodup.map_on fun a ha b hb heq => ?_, .of_map _⟩
    exact h.node_ext (h.mem_farNodes.1 ha).1 (h.mem_farNodes.1 hb).1 (Option.some.inj heq)
  rw [hids, List.nodup_map_iff_inj_on (h.nodup_incident u), NoParallel]
  simp only [h.mem_incident]
  grind

theorem adjacentNodes_eq (u : NodeId) :
    g.adjacentNodes u = {m | m ∈ g.farNodes u (g.incident u)} :=
  Set.ext fun _ => h.mem_farNodes_incident.symm

end Sound

end Graph

namespace MemoryStore

theorem noParallel_sample : sample.graph.NoParallel ⟨0⟩ :=
  built_sample.sound.nodup_farNodes_incident.1 (.of_map NodeOf.id (by decide +kernel))

/-- A company owns a product twice. -/
def parallel : MemoryStore :=
  let s := (({} : MemoryStore).createNode ["COMPANY"] []).1
  let s := (s.createNode ["PRODUCT"] []).1
  let s := (s.createRelationship ⟨0⟩ ⟨1⟩ "OWNS" []).1
  (s.createRelationship ⟨0⟩ ⟨1⟩ "OWNS" []).1

theorem healthy_parallel : parallel.Healthy := ⟨rfl, rfl, rfl⟩

theorem built_parallel : parallel.graph.Built := by
  repeat' first | exact .empty | apply built_createRelationship | apply built_createNode

end MemoryStore

namespace Engine

variable {s : MemoryStore}

/-- There is a detail of the nodes that there are. It has the relationships that touch the node in
ascending order, each once, and counts as many far ends. These are different nodes only if no two
relationships lead to the same one. -/
theorem detail_shows (hs : s.Healthy) (hb : s.graph.Built) (e : Engine) (id : NodeId) :
    ∃ answer, (e.detail id).run s = (.ok answer, s) ∧
      (answer = none ↔ ∀ n ∈ s.graph.nodes, n.id ≠ id) ∧
      ∀ result, answer = some result →
        (∃ n ∈ s.graph.nodes, n.id = id ∧ result.node = .ofNode n) ∧
        (∃ touching : List Relationship, result.relationships = touching.map .ofRelationship ∧
          (∀ r, r ∈ touching ↔ r ∈ s.graph.relationships ∧ (r.source = id ∨ r.target = id)) ∧
          Ascends (fun r => r.id.number) touching ∧ result.connectedNodes = touching.length) ∧
        (s.graph.adjacentNodes id).ncard ≤ result.connectedNodes ∧
        (result.connectedNodes = (s.graph.adjacentNodes id).ncard ↔ s.graph.NoParallel id) := by
  have hsound := hb.sound
  refine ⟨_, detail_ok hs e id, ?_, fun result hresult => ?_⟩
  · rw [Option.map_eq_none_iff, Option.eq_none_iff_forall_ne_some]
    simp only [ne_eq, hsound.node?_eq_some, not_and]
  · obtain ⟨n, hn, rfl⟩ := Option.map_eq_some_iff.1 hresult
    obtain ⟨hstored, hid⟩ := hsound.node?_eq_some.1 hn
    refine ⟨⟨n, hstored, hid, rfl⟩, ⟨_, rfl, fun r => hsound.mem_incident_iff_ends,
      hsound.ascends_incident id, hsound.length_farNodes_incident id⟩, ?_, ?_⟩
    · rw [hsound.adjacentNodes_eq]
      exact ncard_mem_le _
    · rw [hsound.adjacentNodes_eq, eq_comm, ncard_mem_eq_iff, hsound.nodup_farNodes_incident]

theorem view_detail_sample :
    ((detail {} ⟨0⟩).run MemoryStore.sample).1.map (fun answer => answer.map fun result =>
      (result.relationships.map (·.id), result.connectedNodes)) =
    .ok (some (["0", "2", "3"], 3)) := by
  decide +kernel

theorem detail_shows_sample :
    MemoryStore.sample.Healthy ∧ MemoryStore.sample.graph.Built ∧
      ∃ result, (detail {} ⟨0⟩).run MemoryStore.sample = (.ok (some result), MemoryStore.sample) ∧
        result.relationships.map (·.id) = ["0", "2", "3"] ∧
        result.connectedNodes = (MemoryStore.sample.graph.adjacentNodes ⟨0⟩).ncard ∧
        result.connectedNodes = 3 := by
  obtain ⟨answer, hrun, -, hshows⟩ := detail_shows MemoryStore.healthy_sample
    MemoryStore.built_sample {} ⟨0⟩
  have hview := Call.view_of_run hrun view_detail_sample
  obtain ⟨result, rfl, hresult⟩ := Option.map_eq_some_iff.1 hview
  obtain ⟨-, -, -, hcount⟩ := hshows result rfl
  obtain ⟨hids, hthree⟩ := Prod.mk.inj hresult
  exact ⟨MemoryStore.healthy_sample, MemoryStore.built_sample, result, hrun, hids,
    hcount.2 MemoryStore.noParallel_sample, hthree⟩

/-- Two relationships that lead to one node are counted as two nodes. -/
theorem detail_parallel :
    MemoryStore.parallel.Healthy ∧ MemoryStore.parallel.graph.Built ∧
      ∃ result, (detail {} ⟨0⟩).run MemoryStore.parallel =
          (.ok (some result), MemoryStore.parallel) ∧
        result.connectedNodes = 2 ∧ (MemoryStore.parallel.graph.adjacentNodes ⟨0⟩).ncard = 1 := by
  have hadjacent : MemoryStore.parallel.graph.adjacentNodes ⟨0⟩ = {⟨⟨1⟩, ["PRODUCT"], []⟩} := by
    rw [MemoryStore.built_parallel.sound.adjacentNodes_eq]
    ext m
    have hfar : MemoryStore.parallel.graph.farNodes ⟨0⟩ (MemoryStore.parallel.graph.incident ⟨0⟩) =
        [⟨⟨1⟩, ["PRODUCT"], []⟩, ⟨⟨1⟩, ["PRODUCT"], []⟩] := rfl
    simp [hfar]
  refine ⟨MemoryStore.healthy_parallel, MemoryStore.built_parallel, _,
    detail_ok MemoryStore.healthy_parallel {} ⟨0⟩, rfl, ?_⟩
  rw [hadjacent, Set.ncard_singleton]

end Engine

end FacetedGraph
