import FacetedGraph.Graph.LightestPath
import FacetedGraph.Proofs.Binary64.Order
import FacetedGraph.Proofs.Graph.Walk

/-!
# The course of a search

A search settles nodes one after the other in the order of cost. What it knows of a settled node
is final, and what it knows of the others came from a settled one. That is so at the start, and
every step of a search keeps it.

## Main definitions

* `Search.Arrived` — how a node came to be found.
* `Search.Grown` — settled nodes, each found from those before.
* `Search.Invariant` — what is true of a search at any time.

## Main statements

* `Search.invariant_start`.
* `Search.Invariant.pass`, `Search.Invariant.settle`, `Search.Invariant.relax` — passing over an
  entry, settling a node, and trying a relationship from it.
-/

namespace FacetedGraph

/-! ## Queues -/

namespace Entry

variable {e f : Entry} {queue : List Entry}

theorem cost_le_of_before (h : e.before f) : e.cost ≤ f.cost := by
  simp only [before, Bool.or_eq_true, Bool.and_eq_true, decide_eq_true_eq, beq_iff_eq] at h
  rcases h with hlt | ⟨heq, -⟩
  · exact le_of_lt hlt
  · exact le_of_eq heq

theorem cost_le_of_not_before (h : ¬ e.before f) : f.cost ≤ e.cost := by
  simp only [before, Bool.or_eq_true, decide_eq_true_eq, not_or] at h
  exact le_of_not_gt h.1

theorem enqueue_perm (e : Entry) (queue : List Entry) :
    (e.enqueue queue).Perm (e :: queue) := by
  fun_induction enqueue e queue with
  | case1 => exact .refl _
  | case2 => exact .refl _
  | case3 f rest _ ih => exact (ih.cons f).trans (.swap e f rest)

theorem mem_enqueue : f ∈ e.enqueue queue ↔ f = e ∨ f ∈ queue := by
  rw [(enqueue_perm e queue).mem_iff, List.mem_cons]

theorem pairwise_enqueue (h : queue.Pairwise fun a b => a.cost ≤ b.cost) :
    (e.enqueue queue).Pairwise fun a b => a.cost ≤ b.cost := by
  fun_induction enqueue e queue with
  | case1 => exact List.pairwise_singleton _ _
  | case2 f rest hbefore =>
    have hef := cost_le_of_before hbefore
    refine List.pairwise_cons.2 ⟨fun a ha => ?_, h⟩
    rcases List.mem_cons.1 ha with rfl | ha
    · exact hef
    · exact le_trans hef (List.rel_of_pairwise_cons h ha)
  | case3 f rest hbefore ih =>
    refine List.pairwise_cons.2 ⟨fun a ha => ?_, ih h.of_cons⟩
    rcases mem_enqueue.1 ha with rfl | ha
    · exact cost_le_of_not_before hbefore
    · exact List.rel_of_pairwise_cons h ha

end Entry

namespace Search

variable {g : Graph} {source target u v : NodeId} {s t : Search} {settled : List NodeId}
  {level : Magnitude} {e : Entry} {step : Relationship × NodeId}

/-! ## Single steps -/

theorem improves_iff {cost : Magnitude} :
    s.improves cost v ↔ ∀ a, s.arrival? v = some a → cost < a.cost := by
  unfold improves
  cases s.arrival? v <;> simp

theorem isOvertaken_iff : s.isOvertaken e ↔ ∃ a, s.arrival? e.node = some a ∧ a.cost < e.cost := by
  unfold isOvertaken
  cases s.arrival? e.node <;> simp

/-- A relationship that improves nothing changes nothing. -/
theorem relax_of_not_improves (h : ¬ s.improves (e.cost + step.1.cost) step.2) :
    s.relax e step = s :=
  if_neg h

theorem queue_relax (h : s.improves (e.cost + step.1.cost) step.2) :
    (s.relax e step).queue = Entry.enqueue ⟨e.cost + step.1.cost, step.2⟩ s.queue := by
  rw [relax, if_pos h]

theorem arrival?_relax (h : s.improves (e.cost + step.1.cost) step.2) (v : NodeId) :
    (s.relax e step).arrival? v =
      if v = step.2 then some ⟨e.cost + step.1.cost, some (e.node, step.1.id)⟩
      else s.arrival? v := by
  rw [relax, if_pos h, arrival?, List.lookup_cons]
  by_cases hv : v = step.2
  · simp [hv]
  · rw [beq_false_of_ne hv, if_neg hv, arrival?]

/-- What is known only gets better. -/
theorem exists_arrival_relax {a : Arrival} (ha : s.arrival? v = some a) (e : Entry)
    (step : Relationship × NodeId) :
    ∃ b, (s.relax e step).arrival? v = some b ∧ b.cost ≤ a.cost := by
  by_cases himproves : s.improves (e.cost + step.1.cost) step.2
  · rw [arrival?_relax himproves]
    split
    case isTrue heq =>
      subst heq
      exact ⟨_, rfl, le_of_lt (improves_iff.1 himproves a ha)⟩
    case isFalse => exact ⟨a, ha, le_refl _⟩
  · rw [relax_of_not_improves himproves]
    exact ⟨a, ha, le_refl _⟩

/-- After a relationship was tried its other end is known at what it costs to go there. -/
theorem exists_arrival_relax_end (s : Search) (e : Entry) (step : Relationship × NodeId) :
    ∃ b, (s.relax e step).arrival? step.2 = some b ∧ b.cost ≤ e.cost + step.1.cost := by
  by_cases himproves : s.improves (e.cost + step.1.cost) step.2
  · rw [arrival?_relax himproves, if_pos rfl]
    exact ⟨_, rfl, le_refl _⟩
  · rw [relax_of_not_improves himproves]
    rw [improves_iff] at himproves
    obtain ⟨a, ha⟩ := not_forall.1 himproves
    obtain ⟨ha, hle⟩ := not_forall.1 ha
    exact ⟨a, ha, le_of_not_gt hle⟩

/-! ## Arrivals -/

/-- A node is the source, or was reached from a settled node at what it costs to go there. -/
def Arrived (g : Graph) (source : NodeId) (settled : List NodeId) (s : Search) (v : NodeId) :
    Prop :=
  v = source ∧ s.arrival? v = some ⟨.zero, none⟩ ∨
    ∃ u ∈ settled, ∃ a, s.arrival? u = some a ∧
      ∃ r ∈ g.relationships, r.otherEnd u = some v ∧
        s.arrival? v = some ⟨a.cost + r.cost, some (u, r.id)⟩

theorem Arrived.congr (h : s.Arrived g source settled v) (hv : t.arrival? v = s.arrival? v)
    (hsettled : ∀ u ∈ settled, t.arrival? u = s.arrival? u) : t.Arrived g source settled v := by
  rcases h with ⟨rfl, hzero⟩ | ⟨u, hu, a, ha, r, hr, ho, hlast⟩
  · exact .inl ⟨rfl, hv.trans hzero⟩
  · exact .inr ⟨u, hu, a, (hsettled u hu).trans ha, r, hr, ho, hv.trans hlast⟩

theorem Arrived.cons (h : s.Arrived g source settled v) (u : NodeId) :
    s.Arrived g source (u :: settled) v := by
  rcases h with hsource | ⟨w, hw, hrest⟩
  · exact .inl hsource
  · exact .inr ⟨w, List.mem_cons_of_mem u hw, hrest⟩

theorem Arrived.exists_arrival (h : s.Arrived g source settled v) : ∃ a, s.arrival? v = some a := by
  rcases h with ⟨-, hzero⟩ | ⟨_, _, _, _, _, _, _, hlast⟩
  · exact ⟨_, hzero⟩
  · exact ⟨_, hlast⟩

/-- Settled nodes, the latest first: each of them is new and was reached from those before. -/
inductive Grown (g : Graph) (source : NodeId) (s : Search) : List NodeId → Prop
  | nil : Grown g source s []
  | cons {settled : List NodeId} {v : NodeId} : v ∉ settled → s.Arrived g source settled v →
      Grown g source s settled → Grown g source s (v :: settled)

theorem Grown.congr (h : s.Grown g source settled)
    (hsettled : ∀ u ∈ settled, t.arrival? u = s.arrival? u) : t.Grown g source settled := by
  induction h with
  | nil => exact .nil
  | cons hnew harrived _ ih =>
    have hrest := fun u hu => hsettled u (List.mem_cons_of_mem _ hu)
    exact .cons hnew (harrived.congr (hsettled _ List.mem_cons_self) hrest) (ih hrest)

theorem Grown.nodup (h : s.Grown g source settled) : settled.Nodup := by
  induction h with
  | nil => exact .nil
  | cons hnew _ _ ih => exact List.nodup_cons.2 ⟨hnew, ih⟩

theorem Grown.exists_arrival (h : s.Grown g source settled) (hv : v ∈ settled) :
    ∃ a, s.arrival? v = some a := by
  induction h with
  | nil => cases hv
  | cons _ harrived _ ih =>
    rcases List.mem_cons.1 hv with rfl | hv
    · exact harrived.exists_arrival
    · exact ih hv

/-! ## What is true at any time -/

/-- A search that has settled nodes up to a cost, and has yet to try the pending relationships
from them. -/
structure Invariant (g : Graph) (source : NodeId) (level : Magnitude) (settled : List NodeId)
    (pending : List (NodeId × Relationship × NodeId)) (s : Search) : Prop where
  source_arrival : s.arrival? source = some ⟨.zero, none⟩
  known : ∀ v a, s.arrival? v = some a → (g.node? v).isSome
  grown : s.Grown g source settled
  settled_le : ∀ v ∈ settled, ∀ a, s.arrival? v = some a → a.cost ≤ level
  /-- What is found and not settled has an open entry of its cost. -/
  arrived : ∀ v a, s.arrival? v = some a → v ∉ settled →
    s.Arrived g source settled v ∧ ⟨a.cost, v⟩ ∈ s.queue
  ordered : s.queue.Pairwise fun e f => e.cost ≤ f.cost
  nodup : s.queue.Nodup
  level_le : ∀ e ∈ s.queue, level ≤ e.cost
  /-- Open entries of settled nodes are overtaken. -/
  entry : ∀ e ∈ s.queue, ∃ a, s.arrival? e.node = some a ∧ a.cost ≤ e.cost ∧
    (e.node ∈ settled → a.cost < e.cost)
  relaxed : ∀ u ∈ settled, ∀ a, s.arrival? u = some a → ∀ step ∈ g.steps u,
    (u, step) ∈ pending ∨ ∃ b, s.arrival? step.2 = some b ∧ b.cost ≤ a.cost + step.1.cost

theorem invariant_start (h : (g.node? source).isSome) :
    Invariant g source .zero [] [] (start source) := by
  have honly {v : NodeId} {a : Arrival} (ha : (start source).arrival? v = some a) :
      v = source ∧ a = ⟨.zero, none⟩ := by
    rw [arrival?, start, List.lookup_cons] at ha
    by_cases hv : v = source
    · simp [hv] at ha
      exact ⟨hv, ha.symm⟩
    · simp [beq_false_of_ne hv] at ha
  have hsource : (start source).arrival? source = some ⟨.zero, none⟩ := by
    simp [start, arrival?]
  refine ⟨hsource, ?_, .nil, by simp, ?_, by simp [start], by simp [start], ?_, ?_, by simp⟩
  · intro v a ha
    rwa [(honly ha).1]
  · intro v a ha _
    obtain ⟨rfl, rfl⟩ := honly ha
    exact ⟨.inl ⟨rfl, hsource⟩, List.mem_singleton_self _⟩
  · intro e _
    exact e.cost.zero_le
  · intro e he
    obtain rfl := List.mem_singleton.1 he
    exact ⟨_, hsource, le_refl _, fun h => absurd h List.not_mem_nil⟩

namespace Invariant

variable {pending : List (NodeId × Relationship × NodeId)} {rest : List Entry}

/-- Passing over an entry loses nothing, since there is a cheaper one of the node. -/
theorem pass (hi : Invariant g source level settled [] s) (hq : s.queue = e :: rest)
    (hover : s.isOvertaken e) :
    Invariant g source level settled [] { s with queue := rest } := by
  have hsub : ∀ f ∈ rest, f ∈ s.queue := fun f hf => hq ▸ List.mem_cons_of_mem e hf
  refine ⟨hi.source_arrival, hi.known, hi.grown.congr fun _ _ => rfl, hi.settled_le, ?_, ?_, ?_,
    fun f hf => hi.level_le f (hsub f hf), fun f hf => hi.entry f (hsub f hf), hi.relaxed⟩
  · intro v a ha hv
    obtain ⟨harrived, hentry⟩ := hi.arrived v a ha hv
    refine ⟨harrived.congr rfl fun _ _ => rfl, ?_⟩
    obtain ⟨b, hb, hlt⟩ := isOvertaken_iff.1 hover
    rw [hq] at hentry
    rcases List.mem_cons.1 hentry with rfl | hrest
    · -- the entry passed over is dearer than the arrival
      obtain rfl := Option.some_inj.1 (ha.symm.trans hb)
      exact absurd hlt (lt_irrefl _)
    · exact hrest
  · exact (hq ▸ hi.ordered).of_cons
  · exact (List.nodup_cons.1 (hq ▸ hi.nodup)).2

/-- An entry that is not overtaken has the least cost known of its node, which is not settled. -/
theorem unsettled (hi : Invariant g source level settled pending s) (hq : e ∈ s.queue)
    (hnot : ¬ s.isOvertaken e) :
    e.node ∉ settled ∧ ∃ a, s.arrival? e.node = some a ∧ a.cost = e.cost := by
  obtain ⟨a, ha, hle, hlt⟩ := hi.entry e hq
  have hge : ¬ a.cost < e.cost := fun h => hnot (isOvertaken_iff.2 ⟨a, ha, h⟩)
  exact ⟨fun hsettled => hge (hlt hsettled), a, ha, le_antisymm hle (le_of_not_gt hge)⟩

/-- Taking the first entry settles its node at its cost, with its relationships to be tried. -/
theorem settle (hi : Invariant g source level settled [] s) (hq : s.queue = e :: rest)
    (hnot : ¬ s.isOvertaken e) :
    Invariant g source e.cost (e.node :: settled) ((g.steps e.node).map (e.node, ·))
      { s with queue := rest } := by
  have hfirst : e ∈ s.queue := hq ▸ List.mem_cons_self
  have hsub : ∀ f ∈ rest, f ∈ s.queue := fun f hf => hq ▸ List.mem_cons_of_mem e hf
  obtain ⟨hnew, a, ha, hcost⟩ := hi.unsettled hfirst hnot
  have hnodup := List.nodup_cons.1 (hq ▸ hi.nodup)
  have hordered := hq ▸ hi.ordered
  refine ⟨hi.source_arrival, hi.known, ?_, ?_, ?_, hordered.of_cons, hnodup.2,
    fun f hf => List.rel_of_pairwise_cons hordered hf, ?_, ?_⟩
  · have hgrown := hi.grown.cons hnew (hi.arrived _ a ha hnew).1
    exact hgrown.congr fun _ _ => rfl
  · intro v hv b hb
    rcases List.mem_cons.1 hv with rfl | hv
    · obtain rfl := Option.some_inj.1 (ha.symm.trans hb)
      exact le_of_eq hcost
    · exact le_trans (hi.settled_le v hv b hb) (hi.level_le e hfirst)
  · intro v b hb hv
    obtain ⟨hne, hv⟩ := not_or.1 (mt List.mem_cons.2 hv)
    obtain ⟨harrived, hentry⟩ := hi.arrived v b hb hv
    refine ⟨(harrived.cons e.node).congr rfl fun _ _ => rfl, ?_⟩
    rw [hq] at hentry
    rcases List.mem_cons.1 hentry with rfl | hrest
    · exact absurd rfl hne
    · exact hrest
  · intro f hf
    obtain ⟨b, hb, hle, hlt⟩ := hi.entry f (hsub f hf)
    refine ⟨b, hb, hle, fun hsettled => ?_⟩
    rcases List.mem_cons.1 hsettled with heq | hsettled
    · -- another entry of the node is dearer, since entries differ
      rw [heq] at hb
      obtain rfl := Option.some_inj.1 (ha.symm.trans hb)
      refine lt_of_le_of_ne hle fun hsame => hnodup.1 ?_
      obtain ⟨c, w⟩ := e
      obtain ⟨c', w'⟩ := f
      simp only at heq hsame hcost
      rwa [← heq, ← hcost, hsame]
    · exact hlt hsettled
  · intro u hu b hb step hstep
    rcases List.mem_cons.1 hu with rfl | hu
    · exact .inl (List.mem_map_of_mem hstep)
    · rcases hi.relaxed u hu b hb step hstep with hnone | hdone
      · cases hnone
      · exact .inr hdone

/-! ## Trying a relationship -/

/-- A settled node cannot be improved on. -/
theorem notMem_of_improves (hi : Invariant g source level settled pending s)
    (hlevel : level ≤ e.cost) (himproves : s.improves (e.cost + step.1.cost) step.2) :
    step.2 ∉ settled := by
  intro hsettled
  obtain ⟨a, ha⟩ := hi.grown.exists_arrival hsettled
  have hge : a.cost ≤ e.cost + step.1.cost :=
    calc a.cost ≤ level := hi.settled_le _ hsettled a ha
      _ ≤ e.cost := hlevel
      _ ≤ e.cost + step.1.cost := Magnitude.le_add_right _ _
  exact absurd (improves_iff.1 himproves a ha) (not_lt_of_ge hge)

/-- What is known of a settled node is final. -/
theorem arrival?_relax_settled (hi : Invariant g source level settled pending s)
    (step : Relationship × NodeId) (hlevel : level ≤ e.cost) (hv : v ∈ settled) :
    (s.relax e step).arrival? v = s.arrival? v := by
  by_cases himproves : s.improves (e.cost + step.1.cost) step.2
  · rw [arrival?_relax himproves, if_neg]
    rintro rfl
    exact hi.notMem_of_improves hlevel himproves hv
  · rw [relax_of_not_improves himproves]

section Relax

variable (hi : Invariant g source e.cost settled ((e.node, step) :: pending) s)

include hi

theorem relaxed_relax {a : Arrival} (ha : s.arrival? e.node = some a) (hcost : a.cost = e.cost) :
    ∀ u ∈ settled, ∀ b, (s.relax e step).arrival? u = some b → ∀ q ∈ g.steps u,
      (u, q) ∈ pending ∨
        ∃ c, (s.relax e step).arrival? q.2 = some c ∧ c.cost ≤ b.cost + q.1.cost := by
  intro u hu b hb q hq
  rw [hi.arrival?_relax_settled step (le_refl _) hu] at hb
  rcases hi.relaxed u hu b hb q hq with hpending | ⟨c, hc, hle⟩
  · rcases List.mem_cons.1 hpending with heq | hpending
    · obtain ⟨rfl, rfl⟩ := Prod.mk.inj heq
      obtain rfl := Option.some_inj.1 (ha.symm.trans hb)
      rw [hcost]
      exact .inr (exists_arrival_relax_end s e q)
    · exact .inl hpending
  · obtain ⟨d, hd, hdc⟩ := exists_arrival_relax hc e step
    exact .inr ⟨d, hd, le_trans hdc hle⟩

theorem entry_relax (himproves : s.improves (e.cost + step.1.cost) step.2) :
    ∀ f ∈ (s.relax e step).queue, ∃ b, (s.relax e step).arrival? f.node = some b ∧
      b.cost ≤ f.cost ∧ (f.node ∈ settled → b.cost < f.cost) := by
  intro f hf
  rw [queue_relax himproves, Entry.mem_enqueue] at hf
  rcases hf with rfl | hf
  · obtain ⟨b, hb, hle⟩ := exists_arrival_relax_end s e step
    exact ⟨b, hb, hle, fun h => absurd h (hi.notMem_of_improves (le_refl _) himproves)⟩
  · obtain ⟨b, hb, hle, hlt⟩ := hi.entry f hf
    obtain ⟨c, hc, hcb⟩ := exists_arrival_relax hb e step
    exact ⟨c, hc, le_trans hcb hle, fun h => lt_of_le_of_lt hcb (hlt h)⟩

theorem arrived_relax (himproves : s.improves (e.cost + step.1.cost) step.2) (h : g.Sound)
    (he : e.node ∈ settled) {a : Arrival} (ha : s.arrival? e.node = some a)
    (hcost : a.cost = e.cost) (hstep : step ∈ g.steps e.node) :
    ∀ v b, (s.relax e step).arrival? v = some b → v ∉ settled →
      (s.relax e step).Arrived g source settled v ∧ ⟨b.cost, v⟩ ∈ (s.relax e step).queue := by
  intro v b hb hv
  have hkept (w : NodeId) (hw : w ∈ settled) : (s.relax e step).arrival? w = s.arrival? w :=
    hi.arrival?_relax_settled step (le_refl _) hw
  have hfound := arrival?_relax himproves v
  rw [queue_relax himproves, Entry.mem_enqueue]
  by_cases heq : v = step.2
  · rw [if_pos heq] at hfound
    obtain rfl := Option.some_inj.1 (hfound.symm.trans hb)
    obtain ⟨hr, ho⟩ := h.mem_steps.1 hstep
    rw [← heq] at ho
    rw [← hcost] at hfound
    exact ⟨.inr ⟨e.node, he, a, (hkept _ he).trans ha, step.1, hr, ho, hfound⟩, .inl (by rw [heq])⟩
  · rw [if_neg heq] at hfound
    obtain ⟨harrived, hentry⟩ := hi.arrived v b (hfound ▸ hb) hv
    exact ⟨harrived.congr hfound hkept, .inr hentry⟩

/-- Trying a relationship from the node settled last makes it one that is done with. -/
theorem relax (h : g.Sound) (he : e.node ∈ settled) {a : Arrival}
    (ha : s.arrival? e.node = some a) (hcost : a.cost = e.cost)
    (hstep : step ∈ g.steps e.node) :
    Invariant g source e.cost settled pending (s.relax e step) := by
  have hrelaxed := hi.relaxed_relax ha hcost
  by_cases himproves : s.improves (e.cost + step.1.cost) step.2
  · have hkept (v : NodeId) (hv : v ∈ settled) : (s.relax e step).arrival? v = s.arrival? v :=
      hi.arrival?_relax_settled step (le_refl _) hv
    have hbetter := improves_iff.1 himproves
    refine ⟨?_, ?_, hi.grown.congr hkept, ?_, hi.arrived_relax himproves h he ha hcost hstep, ?_,
      ?_, ?_, hi.entry_relax himproves, hrelaxed⟩
    · rw [arrival?_relax himproves, if_neg, hi.source_arrival]
      rintro rfl
      exact absurd (hbetter _ hi.source_arrival) (not_lt_of_ge (Magnitude.zero_le _))
    · intro v b hb
      rw [arrival?_relax himproves] at hb
      split at hb
      case isTrue heq =>
        rw [heq]
        exact h.isSome_node?_of_otherEnd (h.mem_steps.1 hstep).1 (h.mem_steps.1 hstep).2
      case isFalse => exact hi.known v b hb
    · intro v hv b hb
      exact hi.settled_le v hv b (hkept v hv ▸ hb)
    · rw [queue_relax himproves]
      exact Entry.pairwise_enqueue hi.ordered
    · rw [queue_relax himproves, (Entry.enqueue_perm _ _).nodup_iff, List.nodup_cons]
      refine ⟨fun hin => ?_, hi.nodup⟩
      -- an entry of the node is no cheaper than what was known of it
      obtain ⟨b, hb, hle, -⟩ := hi.entry _ hin
      exact absurd (hbetter b hb) (not_lt_of_ge hle)
    · intro f hf
      rw [queue_relax himproves, Entry.mem_enqueue] at hf
      rcases hf with rfl | hf
      · exact Magnitude.le_add_right _ _
      · exact hi.level_le f hf
  · rw [relax_of_not_improves himproves] at hrelaxed ⊢
    exact { hi with relaxed := hrelaxed }

end Relax

end Invariant

end Search

end FacetedGraph
