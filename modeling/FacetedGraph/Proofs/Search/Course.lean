import FacetedGraph.Proofs.Search.Invariant
import Mathlib.Algebra.Order.BigOperators.Group.List
import Mathlib.Algebra.Order.Group.Nat
import Mathlib.Algebra.Ring.Nat

/-!
# The end of a search

A search comes to its end within the fuel that it is given, since every node is settled once and
opens no more entries than relationships touch it. At the end no walk to the target is lighter
than what is known of it.

## Main definitions

* `walkCost` — what it costs to follow relationships, summed up from the first to the last.
* `Search.opened` — how many entries settled nodes can have opened.

## Main statements

* `Search.next_eq_some`, `Search.next_eq_none` — what a step can be.
* `Search.Invariant.relaxAll_induct` — what trying all relationships of a node keeps.
* `Search.Invariant.turn`, `Search.Invariant.next` — what a step does.
* `Search.opened_le_searchBound`, `Search.Invariant.run` — a search ends.
* `Search.Invariant.cost_le_walkCost` — at the end no walk is lighter.
-/

namespace FacetedGraph

/-! ## Costs of walks -/

def walkCost (rs : List Relationship) : Magnitude :=
  rs.foldl (fun total r => total + r.cost) .zero

theorem walkCost_append_singleton (rs : List Relationship) (r : Relationship) :
    walkCost (rs ++ [r]) = walkCost rs + r.cost := by
  rw [walkCost, List.foldl_append]
  rfl

namespace Search

variable {g : Graph} {source target v : NodeId} {s t : Search} {settled : List NodeId}
  {level : Magnitude} {e : Entry} {rest : List Entry} {rs : List Relationship}

/-! ## One step -/

/-- A step passes over the first entry, or tries all relationships from its node. -/
theorem next_eq_some (hnext : s.next g target = some t) :
    ∃ e rest, s.queue = e :: rest ∧ e.node ≠ target ∧
      (s.isOvertaken e ∧ t = { s with queue := rest } ∨
        ¬ s.isOvertaken e ∧ t = (g.steps e.node).foldl (relax e) { s with queue := rest }) := by
  unfold Search.next at hnext
  split at hnext
  case h_1 => cases hnext
  case h_2 e rest hq =>
    split at hnext
    case isTrue => cases hnext
    case isFalse hne =>
      refine ⟨e, rest, hq, hne, ?_⟩
      dsimp only at hnext
      split at hnext
      case isTrue hover => exact .inl ⟨hover, (Option.some_inj.1 hnext).symm⟩
      case isFalse hnot => exact .inr ⟨hnot, (Option.some_inj.1 hnext).symm⟩

/-- There is no step when there is no entry, or when the first one is of the target. -/
theorem next_eq_none (hnext : s.next g target = none) :
    s.queue = [] ∨ ∃ e rest, s.queue = e :: rest ∧ e.node = target := by
  unfold Search.next at hnext
  split at hnext
  case h_1 hq => exact .inl hq
  case h_2 e rest hq =>
    split at hnext
    case isTrue htarget => exact .inr ⟨e, rest, hq, htarget⟩
    case isFalse =>
      dsimp only at hnext
      split at hnext <;> cases hnext

theorem length_queue_relax_le (s : Search) (e : Entry) (step : Relationship × NodeId) :
    (s.relax e step).queue.length ≤ s.queue.length + 1 := by
  by_cases himproves : s.improves (e.cost + step.1.cost) step.2
  · rw [queue_relax himproves, (Entry.enqueue_perm _ _).length_eq, List.length_cons]
  · rw [relax_of_not_improves himproves]
    omega

theorem length_queue_foldl_relax_le (s : Search) (e : Entry)
    (steps : List (Relationship × NodeId)) :
    (steps.foldl (relax e) s).queue.length ≤ s.queue.length + steps.length := by
  induction steps generalizing s with
  | nil => exact Nat.le_refl _
  | cons step steps ih =>
    have hfirst := length_queue_relax_le s e step
    have hrest := ih (s.relax e step)
    rw [List.foldl_cons, List.length_cons]
    omega

section RelaxAll

variable {steps : List (Relationship × NodeId)}
  (hi : Invariant g source e.cost settled (steps.map (e.node, ·)) s) (h : g.Sound)
  (he : e.node ∈ settled) {a : Arrival} (ha : s.arrival? e.node = some a) (hcost : a.cost = e.cost)
  (hsteps : ∀ step ∈ steps, step ∈ g.steps e.node)

include hi h he ha hcost hsteps

/-- Trying all relationships from the node settled last leaves none to be tried, and keeps whatever
trying one of them keeps. -/
theorem Invariant.relaxAll_induct (motive : Search → Prop) (hs : motive s)
    (hrelax : ∀ t step pending,
      Invariant g source e.cost settled ((step :: pending).map (e.node, ·)) t →
        motive t → motive (t.relax e step)) :
    Invariant g source e.cost settled [] (steps.foldl (Search.relax e) s) ∧
      motive (steps.foldl (Search.relax e) s) := by
  induction steps generalizing s with
  | nil => exact ⟨hi, hs⟩
  | cons step steps ih =>
    have hkept := hi.arrival?_relax_settled step (le_refl _) he
    exact ih (hi.relax h he ha hcost (hsteps step List.mem_cons_self)) (hkept.trans ha)
      (fun q hq => hsteps q (List.mem_cons_of_mem _ hq)) (hrelax s step steps hi hs)

theorem Invariant.relaxAll :
    Invariant g source e.cost settled [] (steps.foldl (Search.relax e) s) :=
  (hi.relaxAll_induct h he ha hcost hsteps (fun _ => True) trivial fun _ _ _ _ => id).1

/-- Trying relationships from it leaves alone what is known of settled nodes. -/
theorem Invariant.arrival?_relaxAll (hv : v ∈ settled) :
    (steps.foldl (Search.relax e) s).arrival? v = s.arrival? v := by
  refine (hi.relaxAll_induct h he ha hcost hsteps (fun t => t.arrival? v = s.arrival? v) rfl
    fun t step _ ht hkept => ?_).2
  exact (ht.arrival?_relax_settled step (le_refl _) hv).trans hkept

end RelaxAll

/-- No entry is cheaper than the first one. -/
theorem Invariant.raise (hi : Invariant g source level settled [] s) {level' : Magnitude}
    (hlevel : level ≤ level') (hqueue : ∀ e ∈ s.queue, level' ≤ e.cost) :
    Invariant g source level' settled [] s :=
  { hi with
    settled_le := fun v hv a ha => le_trans (hi.settled_le v hv a ha) hlevel
    level_le := hqueue }

/-- The source and one entry for each relationship at a settled node. -/
def opened (g : Graph) (settled : List NodeId) : Nat :=
  1 + (settled.map fun u => (g.steps u).length).sum

/-- A step takes the first entry and settles its node, unless the entry is overtaken. What is known
of settled nodes stays, and what the step adds to the queue is paid for by the node that it
settles. -/
theorem Invariant.turn (hi : Invariant g source level settled [] s) (h : g.Sound)
    (hq : s.queue = e :: rest) (hnext : s.next g target = some t) :
    ∃ settled', settled <:+ settled' ∧ (¬ s.isOvertaken e → e.node ∈ settled') ∧
      Invariant g source e.cost settled' [] t ∧
      (∀ v ∈ settled', t.arrival? v = s.arrival? v) ∧
      t.queue.length + 1 + opened g settled ≤ s.queue.length + opened g settled' := by
  have hlength : s.queue.length = rest.length + 1 := by rw [hq, List.length_cons]
  have hlevel : level ≤ e.cost := hi.level_le e (hq ▸ List.mem_cons_self)
  have hordered := hq ▸ hi.ordered
  obtain ⟨e', rest', hq', -, hcases⟩ := next_eq_some hnext
  obtain ⟨rfl, rfl⟩ := List.cons.inj (hq.symm.trans hq')
  rcases hcases with ⟨hover, rfl⟩ | ⟨hnot, rfl⟩
  · refine ⟨settled, List.suffix_refl _, fun hnot => absurd hover hnot,
      (hi.pass hq hover).raise hlevel fun f hf => List.rel_of_pairwise_cons hordered hf,
      fun _ _ => rfl, ?_⟩
    dsimp only
    omega
  · obtain ⟨-, a, ha, hcost⟩ := hi.unsettled (hq ▸ List.mem_cons_self) hnot
    have hsettled := hi.settle hq hnot
    have hgrowth := length_queue_foldl_relax_le { s with queue := rest } e (g.steps e.node)
    refine ⟨e.node :: settled, List.suffix_cons _ _, fun _ => List.mem_cons_self,
      hsettled.relaxAll h List.mem_cons_self ha hcost fun _ => id, fun v hv => ?_, ?_⟩
    · exact hsettled.arrival?_relaxAll h List.mem_cons_self ha hcost (fun _ => id) hv
    · simp only [opened, List.map_cons, List.sum_cons]
      dsimp only at hgrowth
      omega

/-- A step takes an entry. What it adds to the queue is paid for by the node that it settles. -/
theorem Invariant.next (hi : Invariant g source level settled [] s) (h : g.Sound)
    (hnext : s.next g target = some t) :
    ∃ level' settled', level ≤ level' ∧ settled <:+ settled' ∧
      Invariant g source level' settled' [] t ∧
      t.queue.length + 1 + opened g settled ≤ s.queue.length + opened g settled' := by
  obtain ⟨e, rest, hq, -⟩ := next_eq_some hnext
  obtain ⟨settled', hsuffix, -, hi', -, hlength⟩ := hi.turn h hq hnext
  exact ⟨e.cost, settled', hi.level_le e (hq ▸ List.mem_cons_self), hsuffix, hi', hlength⟩

/-! ## The end -/

theorem searchBound_eq (g : Graph) :
    g.searchBound = 1 + (g.incidence.toList.map List.length).sum := by
  have hfold (touching : List (List RelationshipId)) (n : Nat) :
      touching.foldl (fun n ids => n + ids.length) n = n + (touching.map List.length).sum := by
    induction touching generalizing n with
    | nil => rfl
    | cons ids rest ih => rw [List.foldl_cons, ih, List.map_cons, List.sum_cons, Nat.add_assoc]
  exact hfold g.incidence.toList 1

/-- Lists at different places have no more entries than all lists. -/
theorem sum_length_getElem?_le {α : Type} (items : List (List α)) {places : List Nat}
    (h : places.Subperm (List.range items.length)) :
    (places.map fun i => (items[i]?.getD []).length).sum ≤ (items.map List.length).sum := by
  have hall : (List.range items.length).map (fun i => (items[i]?.getD []).length) =
      items.map List.length := by
    refine List.ext_getElem (by simp) fun i hi _ => ?_
    simp at hi
    simp [hi]
  obtain ⟨places', hperm, hsub⟩ := h
  rw [← hall, ← (hperm.map _).sum_nat]
  exact (hsub.map _).sum_le_sum fun _ _ => Nat.zero_le _

theorem length_steps_le (g : Graph) (u : NodeId) :
    (g.steps u).length ≤ (g.incidence.toList[u.number]?.getD []).length := by
  rw [Array.getElem?_toList]
  exact Nat.le_trans (List.length_filterMap_le _ _) (List.length_filterMap_le _ _)

/-- The fuel of a search is enough for all entries that it can open. -/
theorem opened_le_searchBound (h : g.Sound) (hnodup : settled.Nodup)
    (hknown : ∀ u ∈ settled, (g.node? u).isSome) : opened g settled ≤ g.searchBound := by
  have hplaces : (settled.map NodeId.number).Subperm (List.range g.incidence.toList.length) := by
    rw [Array.length_toList, h.incidence_size]
    exact Graph.subperm_range hnodup hknown
  rw [opened, searchBound_eq]
  refine Nat.add_le_add_left ?_ 1
  calc (settled.map fun u => (g.steps u).length).sum
      ≤ (settled.map fun u => (g.incidence.toList[u.number]?.getD []).length).sum :=
        List.sum_le_sum fun u _ => length_steps_le g u
    _ = ((settled.map NodeId.number).map fun i => (g.incidence.toList[i]?.getD []).length).sum := by
        rw [List.map_map]
        rfl
    _ ≤ (g.incidence.toList.map List.length).sum := sum_length_getElem?_le _ hplaces

/-- What settled nodes have opened is within the fuel, since they are nodes of the graph. -/
theorem Invariant.opened_le_searchBound (hi : Invariant g source level settled [] s) (h : g.Sound) :
    opened g settled ≤ g.searchBound := by
  refine Search.opened_le_searchBound h hi.grown.nodup fun u hu => ?_
  obtain ⟨a, ha⟩ := hi.grown.exists_arrival hu
  exact hi.known u a ha

/-- A search with enough fuel for the entries still to be opened ends. -/
theorem Invariant.run (hi : Invariant g source level settled [] s) (h : g.Sound)
    (taken : Nat) {fuel : Nat} (htaken : taken + s.queue.length ≤ opened g settled)
    (hfuel : g.searchBound < taken + fuel) :
    ∃ level' settled', Invariant g source level' settled' [] (Search.run g target fuel s) ∧
      (Search.run g target fuel s).next g target = none := by
  induction fuel generalizing s level settled taken with
  | zero =>
    have hbound := hi.opened_le_searchBound h
    omega
  | succ fuel ih =>
    rw [Search.run]
    cases hnext : s.next g target with
    | none => exact ⟨level, settled, hi, hnext⟩
    | some t =>
      obtain ⟨level', settled', -, -, hi', hlength⟩ := hi.next h hnext
      exact ih hi' (taken + 1) (by omega) (by omega)

theorem invariant_search (target : NodeId) (h : g.Sound) (hsource : (g.node? source).isSome) :
    ∃ level settled, Invariant g source level settled [] (g.search source target) ∧
      (g.search source target).next g target = none := by
  refine (invariant_start hsource).run h 0 ?_ (by omega)
  simp [start, opened]

/-- Whatever a walk leads to is known at no more than its cost, or will be through an entry that
is no dearer. -/
theorem Invariant.exists_le_walkCost (hi : Invariant g source level settled [] s) (h : g.Sound)
    (hw : g.Walk source rs v) :
    (∃ a, s.arrival? v = some a ∧ a.cost ≤ walkCost rs) ∨ ∃ e ∈ s.queue, e.cost ≤ walkCost rs := by
  induction rs using List.reverseRecOn generalizing v with
  | nil =>
    cases hw
    exact .inl ⟨_, hi.source_arrival, le_refl _⟩
  | append_singleton rs r ih =>
    obtain ⟨u, hwalk, hr, ho⟩ := Graph.walk_snoc.1 hw
    rw [walkCost_append_singleton]
    rcases ih hwalk with ⟨a, ha, hle⟩ | ⟨e, he, hle⟩
    · by_cases hu : u ∈ settled
      · obtain ⟨b, hb, hba⟩ := (hi.relaxed u hu a ha (r, v) (h.mem_steps.2 ⟨hr, ho⟩)).resolve_left
          List.not_mem_nil
        exact .inl ⟨b, hb, le_trans hba (Magnitude.add_le_add_right hle r.cost)⟩
      · -- the walk leaves the settled nodes at `u`, which has an open entry
        exact .inr ⟨_, (hi.arrived u a ha hu).2, le_trans hle (Magnitude.le_add_right _ _)⟩
    · exact .inr ⟨e, he, le_trans hle (Magnitude.le_add_right _ _)⟩

/-- At the end no walk to the target is lighter than what is known of it. -/
theorem Invariant.cost_le_walkCost (hi : Invariant g source level settled [] s) (h : g.Sound)
    (hend : s.next g target = none) (hw : g.Walk source rs target) :
    ∃ a, s.arrival? target = some a ∧ a.cost ≤ walkCost rs := by
  rcases hi.exists_le_walkCost h hw with hknown | ⟨f, hf, hle⟩
  · exact hknown
  · rcases next_eq_none hend with hq | ⟨e, rest, hq, htarget⟩
    · rw [hq] at hf
      cases hf
    · have hfirst : e ∈ s.queue := hq ▸ List.mem_cons_self
      obtain ⟨a, ha, hae, -⟩ := hi.entry e hfirst
      have hordered := hq ▸ hi.ordered
      have hef : e.cost ≤ f.cost := by
        rw [hq] at hf
        rcases List.mem_cons.1 hf with rfl | hf
        · exact le_refl _
        · exact List.rel_of_pairwise_cons hordered hf
      exact ⟨a, htarget ▸ ha, le_trans hae (le_trans hef hle)⟩

end Search

end FacetedGraph
