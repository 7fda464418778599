import FacetedGraph.Proofs.Search.Trace
import FacetedGraph.Proofs.Store.Healthy

/-!
# The turns of a search

A search takes one entry in each turn. Entries are taken in the order of cost, a node is expanded
in one turn at most, and what is known of it then is final. So there are no more turns than one for
the source and one for each end of a relationship, and the way back from the target is short.

## Main definitions

* `Search.Turn`, `Search.Turn.Expands` — a turn, and whether it tries the relationships of a node.
* `Search.Course` — the turns that lead from one search to another.
* `Search.Orderly` — what is promised of the turns of a search.
* `Search.WayBack` — the steps from a node back to the source.

## Main statements

* `Search.Invariant.later`, `Search.Invariant.pairwise` — how a turn stands to those after it.
* `Search.Invariant.length_course` — how many turns there are.
* `Search.course_run` — a search runs in turns.
* `Search.stepsTo_of_length_lt` — how much fuel the way back takes.
* `Graph.Built.search_orderly` — every search is orderly, ends, and has a short way back.
-/

namespace FacetedGraph

namespace Search

/-- A turn of a search: the search before it, and the entry that is taken. -/
structure Turn where
  before : Search
  entry : Entry

/-- A turn tries the relationships of the node that it takes, unless that is the target or a
cheaper entry of the node was taken before. -/
def Turn.Expands (target : NodeId) (turn : Turn) : Prop :=
  turn.entry.node ≠ target ∧ ¬ turn.before.isOvertaken turn.entry

/-- The turns that lead from one search to another. The turn that takes the target is the last
one, and changes nothing that is known. -/
inductive Course (g : Graph) (target : NodeId) : Search → List Turn → Search → Prop
  | nil (s : Search) : Course g target s [] s
  | reached {s : Search} {e : Entry} {rest : List Entry} :
      s.queue = e :: rest → e.node = target → Course g target s [⟨s, e⟩] s
  | cons {s t u : Search} {e : Entry} {rest : List Entry} {turns : List Turn} :
      s.queue = e :: rest → s.next g target = some t → Course g target t turns u →
      Course g target s (⟨s, e⟩ :: turns) u

/-- How a turn stands to a later one: costs never decrease, no node is expanded twice, and what is
known of a node when it is expanded is still known later. -/
structure Turn.Precedes (target : NodeId) (a b : Turn) : Prop where
  cost_le : a.entry.cost ≤ b.entry.cost
  node_ne : a.Expands target → b.Expands target → a.entry.node ≠ b.entry.node
  arrival_eq : a.Expands target → b.before.arrival? a.entry.node = a.before.arrival? a.entry.node

/-- What is promised of the turns that lead to a search. -/
structure Orderly (g : Graph) (target : NodeId) (turns : List Turn) (s : Search) : Prop where
  pairwise : turns.Pairwise (Turn.Precedes target)
  /-- What is known of a node when it is expanded is known to the end. -/
  last_eq : ∀ a ∈ turns, a.Expands target →
    s.arrival? a.entry.node = a.before.arrival? a.entry.node
  /-- There is at most one turn for the source and one for each end of a relationship. -/
  length_le : turns.length ≤ 1 + (g.incidence.toList.map List.length).sum

variable {g : Graph} {source target v : NodeId} {s t u : Search} {settled : List NodeId}
  {level : Magnitude} {turns : List Turn}

/-! ## Turns to come -/

/-- How a turn stands to the search `s` with its settled nodes, when it comes later. -/
structure Turn.Later (target : NodeId) (level : Magnitude) (settled : List NodeId) (s : Search)
    (turn : Turn) : Prop where
  level_le : level ≤ turn.entry.cost
  notMem : turn.Expands target → turn.entry.node ∉ settled
  arrival_eq : ∀ v ∈ settled, turn.before.arrival? v = s.arrival? v

theorem Invariant.later_first {e : Entry} {rest : List Entry}
    (hi : Invariant g source level settled [] s) (hq : s.queue = e :: rest) :
    Turn.Later target level settled s ⟨s, e⟩ where
  level_le := hi.level_le e (hq ▸ List.mem_cons_self)
  notMem hexpands := (hi.unsettled (hq ▸ List.mem_cons_self) hexpands.2).1
  arrival_eq _ _ := rfl

theorem Invariant.later (hi : Invariant g source level settled [] s) (h : g.Sound)
    (hc : Course g target s turns u) : ∀ turn ∈ turns, turn.Later target level settled s := by
  induction hc generalizing level settled with
  | nil => nofun
  | reached hq => exact List.forall_mem_singleton.2 (hi.later_first hq)
  | cons hq hnext _ ih =>
    refine List.forall_mem_cons.2 ⟨hi.later_first hq, fun turn hturn => ?_⟩
    obtain ⟨settled', hsuffix, -, hi', hkept, -⟩ := hi.turn h hq hnext
    have hlater := ih hi' turn hturn
    exact ⟨le_trans (hi.level_le _ (hq ▸ List.mem_cons_self)) hlater.level_le,
      fun hexpands hmem => hlater.notMem hexpands (hsuffix.subset hmem),
      fun v hv => (hlater.arrival_eq v (hsuffix.subset hv)).trans (hkept v (hsuffix.subset hv))⟩

/-- What is known of settled nodes is known to the end. -/
theorem Invariant.arrival?_course (hi : Invariant g source level settled [] s) (h : g.Sound)
    (hc : Course g target s turns u) (hv : v ∈ settled) : u.arrival? v = s.arrival? v := by
  induction hc generalizing level settled with
  | nil | reached => rfl
  | cons hq hnext _ ih =>
    obtain ⟨settled', hsuffix, -, hi', hkept, -⟩ := hi.turn h hq hnext
    exact (ih hi' (hsuffix.subset hv)).trans (hkept v (hsuffix.subset hv))

/-- Every turn takes an entry that is open or that a node settled later opens. -/
theorem Invariant.length_course (hi : Invariant g source level settled [] s) (h : g.Sound)
    (hc : Course g target s turns u) :
    turns.length + opened g settled ≤ s.queue.length + g.searchBound := by
  induction hc generalizing level settled with
  | nil =>
    have hsettled := hi.opened_le_searchBound h
    rw [List.length_nil]
    omega
  | reached hq =>
    have hsettled := hi.opened_le_searchBound h
    rw [hq, List.length_cons, List.length_cons, List.length_nil]
    omega
  | cons hq hnext _ ih =>
    obtain ⟨settled', -, -, hi', -, hlength⟩ := hi.turn h hq hnext
    have hrest := ih hi'
    rw [List.length_cons]
    omega

/-! ## Turns of a search -/

theorem Invariant.pairwise (hi : Invariant g source level settled [] s) (h : g.Sound)
    (hc : Course g target s turns u) : turns.Pairwise (Turn.Precedes target) := by
  induction hc generalizing level settled with
  | nil => exact .nil
  | reached => exact List.pairwise_singleton _ _
  | cons hq hnext hrest ih =>
    obtain ⟨settled', -, hsettles, hi', hkept, -⟩ := hi.turn h hq hnext
    refine List.pairwise_cons.2 ⟨fun turn hturn => ?_, ih hi'⟩
    have hlater := hi'.later h hrest turn hturn
    exact {
      cost_le := hlater.level_le
      node_ne := fun hexpands hagain heq => hlater.notMem hagain (heq ▸ hsettles hexpands.2)
      arrival_eq := fun hexpands =>
        (hlater.arrival_eq _ (hsettles hexpands.2)).trans (hkept _ (hsettles hexpands.2)) }

theorem Invariant.arrival?_of_expands (hi : Invariant g source level settled [] s) (h : g.Sound)
    (hc : Course g target s turns u) : ∀ a ∈ turns, a.Expands target →
      u.arrival? a.entry.node = a.before.arrival? a.entry.node := by
  induction hc generalizing level settled with
  | nil => nofun
  | reached => exact List.forall_mem_singleton.2 fun _ => rfl
  | cons hq hnext hrest ih =>
    obtain ⟨settled', -, hsettles, hi', hkept, -⟩ := hi.turn h hq hnext
    refine List.forall_mem_cons.2 ⟨fun hexpands => ?_, ih hi'⟩
    have hmem := hsettles hexpands.2
    exact (hi'.arrival?_course h hrest hmem).trans (hkept _ hmem)

theorem orderly_start (h : g.Sound) (hsource : (g.node? source).isSome)
    (hc : Course g target (start source) turns s) : Orderly g target turns s := by
  have hi := invariant_start hsource
  have hlength := hi.length_course h hc
  refine ⟨hi.pairwise h hc, hi.arrival?_of_expands h hc, ?_⟩
  rw [← searchBound_eq]
  simp only [opened, start, List.map_nil, List.sum_nil, List.length_singleton] at hlength
  omega

/-- A search runs in turns, for as long as it has fuel. -/
theorem course_run (g : Graph) (target : NodeId) (fuel : Nat) (s : Search) :
    ∃ turns, Course g target s turns (run g target fuel s) ∧
      ((run g target fuel s).next g target = none ∨ turns.length = fuel) := by
  induction fuel generalizing s with
  | zero => exact ⟨[], .nil s, .inr rfl⟩
  | succ fuel ih =>
    rw [run]
    cases hnext : s.next g target with
    | none => exact ⟨[], .nil s, .inl hnext⟩
    | some t =>
      obtain ⟨e, rest, hq, -⟩ := next_eq_some hnext
      obtain ⟨turns, hturns, hend⟩ := ih t
      exact ⟨⟨s, e⟩ :: turns, .cons hq hnext hturns, hend.imp_right (congrArg Nat.succ)⟩

/-! ## A source that is no node -/

theorem arrival?_start (source v : NodeId) :
    (start source).arrival? v = if v = source then some ⟨.zero, none⟩ else none := by
  rw [arrival?, start, List.lookup_cons]
  by_cases hv : v = source
  · rw [hv, beq_self_eq_true, if_pos rfl]
  · rw [beq_false_of_ne hv, if_neg hv, List.lookup_nil]

theorem steps_eq_nil (h : g.Sound) (hsource : g.node? source = none) : g.steps source = [] := by
  refine List.eq_nil_iff_forall_not_mem.2 fun ⟨r, other⟩ hstep => ?_
  obtain ⟨hr, ho⟩ := h.mem_steps.1 hstep
  have hsome := h.isSome_node?_of_otherEnd hr (Relationship.otherEnd_symm ho)
  rw [hsource] at hsome
  cases hsome

/-- There is one turn at most, and nothing is found. -/
theorem course_start_idle (h : g.Sound) (hsource : g.node? source = none)
    (hc : Course g target (start source) turns s) :
    s.arrivals = (start source).arrivals ∧ turns.length ≤ 1 ∧
      ∀ turn ∈ turns, turn.before = start source := by
  cases hc with
  | nil => exact ⟨rfl, Nat.zero_le _, nofun⟩
  | reached => exact ⟨rfl, le_refl _, List.forall_mem_singleton.2 rfl⟩
  | @cons _ t _ e rest turns hq hnext hrest =>
    obtain ⟨rfl, rfl⟩ := List.cons.inj (hq : [⟨.zero, source⟩] = e :: rest)
    have ht : t = { start source with queue := [] } := by
      obtain ⟨_, _, hq', -, ⟨-, rfl⟩ | ⟨-, rfl⟩⟩ := next_eq_some hnext
      · rw [← (List.cons.inj (hq.symm.trans hq')).2]
      · obtain ⟨rfl, rfl⟩ := List.cons.inj (hq.symm.trans hq')
        rw [steps_eq_nil h hsource, List.foldl_nil]
    subst ht
    -- nothing is open any more
    cases hrest with
    | nil => exact ⟨rfl, le_refl _, List.forall_mem_singleton.2 rfl⟩
    | reached hq' => cases hq'
    | cons hq' => cases hq'

theorem orderly_start_idle (h : g.Sound) (hsource : g.node? source = none)
    (hc : Course g target (start source) turns s) : Orderly g target turns s := by
  obtain ⟨harrivals, hlength, hbefore⟩ := course_start_idle h hsource hc
  have hpairwise : turns.Pairwise (Turn.Precedes target) := by
    match turns, hlength with
    | [], _ => exact .nil
    | [turn], _ => exact List.pairwise_singleton _ turn
  refine ⟨hpairwise, fun turn hturn _ => ?_, by omega⟩
  rw [arrival?, arrival?, harrivals, hbefore turn hturn]

/-! ## The way back -/

/-- The way back takes one more fuel than it has steps. -/
theorem stepsTo_of_length_lt {fuel fuel' : Nat} {steps : List (NodeId × RelationshipId)}
    (hback : s.stepsTo source fuel v = some steps) (hfuel : steps.length < fuel') :
    s.stepsTo source fuel' v = some steps := by
  induction fuel generalizing fuel' v steps with
  | zero => cases hback
  | succ fuel ih =>
    obtain ⟨fuel', rfl⟩ := Nat.exists_eq_succ_of_ne_zero (Nat.ne_zero_of_lt hfuel)
    rw [stepsTo] at hback ⊢
    split at hback
    case isTrue hv => rw [if_pos hv, hback]
    case isFalse hv =>
      rw [if_neg hv]
      simp only [Option.bind_eq_bind, Option.bind_eq_some_iff] at hback ⊢
      obtain ⟨a, ha, step, hstep, before, hbefore, hsteps⟩ := hback
      obtain rfl := Option.some_inj.1 hsteps
      exact ⟨a, ha, step, hstep, before,
        ih hbefore (Nat.lt_of_succ_lt_succ hfuel), rfl⟩

/-- A way back from a node: the steps recorded lead from node to node to the source, with no node
visited twice and no step missing. -/
structure WayBack (s : Search) (source target : NodeId)
    (steps : List (NodeId × RelationshipId)) : Prop where
  stepsTo_eq : ∀ fuel, steps.length < fuel → s.stepsTo source fuel target = some steps
  nodup : (target :: steps.map Prod.fst).Nodup
  last : (target :: steps.map Prod.fst).getLast? = some source

theorem WayBack.nil (s : Search) (source : NodeId) : s.WayBack source source [] where
  stepsTo_eq fuel hfuel := by
    obtain ⟨fuel, rfl⟩ := Nat.exists_eq_succ_of_ne_zero (Nat.ne_zero_of_lt hfuel)
    rw [stepsTo, if_pos rfl]
  nodup := List.nodup_singleton source
  last := rfl

theorem Invariant.exists_wayBack (hi : Invariant g source level settled [] s) {a : Arrival}
    (ha : s.arrival? target = some a) :
    ∃ steps, s.WayBack source target steps ∧ steps.length < g.nodes.size := by
  obtain ⟨steps, rs, htrace, hsteps, hback⟩ := hi.exists_trace ha
  have hnodes : (steps.reverse.map Prod.fst ++ [target]).reverse =
      target :: steps.map Prod.fst := by simp
  have hnodup : (target :: steps.map Prod.fst).Nodup :=
    hnodes ▸ List.nodup_reverse.2 htrace.nodup
  refine ⟨steps, ⟨fun fuel => stepsTo_of_length_lt hback, hnodup, ?_⟩, ?_⟩
  · rw [← hnodes, List.getLast?_reverse, htrace.route.first]
  · have hknown : ∀ u ∈ target :: steps.map Prod.fst, (g.node? u).isSome := by
      refine List.forall_mem_cons.2 ⟨hi.known target a ha, fun u hu => ?_⟩
      obtain ⟨step, hstep, rfl⟩ := List.mem_map.1 hu
      exact hsteps step hstep
    have hlength := (Graph.subperm_range hnodup hknown).length_le
    rwa [List.length_map, List.length_range, List.length_cons, List.length_map] at hlength

end Search

/-! ## The search of a graph -/

open Search

variable {g : Graph}

/-- In every graph that was built a search takes its turns in the order of cost, expands no node
twice and does not go back on what it knows of an expanded node. It comes to an end within one
turn for the source and one for each end of a relationship. If it knows the target by then, the
steps recorded lead back to the source in fewer steps than there are nodes, with none missing and
no node visited twice. A target that is not in the graph is known only if it is the source itself,
with no step to take. -/
theorem Graph.Built.search_orderly (hb : g.Built) (source target : NodeId) :
    (∀ turns s, Course g target (.start source) turns s → Orderly g target turns s) ∧
      (∃ turns, Course g target (.start source) turns (g.search source target)) ∧
      (g.search source target).next g target = none ∧
      ∀ a, (g.search source target).arrival? target = some a →
        ∃ steps, (g.search source target).WayBack source target steps ∧
          (steps.length < g.nodes.size ∨ g.node? target = none ∧ steps = []) := by
  have h := hb.sound
  obtain ⟨turns, hcourse, hend⟩ := course_run g target (g.searchBound + 1) (.start source)
  have horderly {turns : List Turn} {s : Search} (hc : Course g target (.start source) turns s) :
      Orderly g target turns s := by
    cases hsource : g.node? source with
    | some n => exact orderly_start h (Option.isSome_of_eq_some hsource) hc
    | none => exact orderly_start_idle h hsource hc
  have hlength : turns.length ≤ g.searchBound :=
    searchBound_eq g ▸ (horderly hcourse).length_le
  refine ⟨fun turns s => horderly, ⟨turns, hcourse⟩, hend.resolve_right (by omega), fun a ha => ?_⟩
  cases hsource : g.node? source with
  | some n =>
    obtain ⟨_, _, hi, -⟩ := invariant_search target h (Option.isSome_of_eq_some hsource)
    obtain ⟨steps, hback, hshort⟩ := hi.exists_wayBack ha
    exact ⟨steps, hback, .inl hshort⟩
  | none =>
    obtain ⟨harrivals, -⟩ := course_start_idle h hsource hcourse
    have hfound : (start source).arrival? target = some a := by
      rw [← ha, arrival?, arrival?, ← harrivals]
      rfl
    rw [arrival?_start] at hfound
    split at hfound
    case isTrue htarget =>
      subst htarget
      exact ⟨[], .nil _ _, .inr ⟨hsource, rfl⟩⟩
    case isFalse => cases hfound

/-- The relationship of weight three from `1` to `0` is dearer than the way over `2`. -/
theorem Graph.Built.search_orderly_sample :
    MemoryStore.sample.graph.Built ∧
      (∃ turns, Course MemoryStore.sample.graph ⟨0⟩ (.start ⟨1⟩) turns
          (MemoryStore.sample.graph.search ⟨1⟩ ⟨0⟩) ∧
        Orderly MemoryStore.sample.graph ⟨0⟩ turns (MemoryStore.sample.graph.search ⟨1⟩ ⟨0⟩)) ∧
      (MemoryStore.sample.graph.search ⟨1⟩ ⟨0⟩).WayBack ⟨1⟩ ⟨0⟩ [(⟨2⟩, ⟨3⟩), (⟨1⟩, ⟨1⟩)] := by
  obtain ⟨horderly, ⟨turns, hcourse⟩, -, hback⟩ :=
    MemoryStore.built_sample.search_orderly ⟨1⟩ ⟨0⟩
  refine ⟨MemoryStore.built_sample, ⟨turns, hcourse, horderly _ _ hcourse⟩, ?_⟩
  have hfound : ((MemoryStore.sample.graph.search ⟨1⟩ ⟨0⟩).arrival? ⟨0⟩).isSome := by
    decide +kernel
  have hsteps : (MemoryStore.sample.graph.search ⟨1⟩ ⟨0⟩).stepsTo ⟨1⟩ 4 ⟨0⟩ =
      some [(⟨2⟩, ⟨3⟩), (⟨1⟩, ⟨1⟩)] := by
    decide +kernel
  obtain ⟨a, ha⟩ := Option.isSome_iff_exists.1 hfound
  obtain ⟨steps, hway, hshort | ⟨hnone, -⟩⟩ := hback a ha
  · cases (hway.stepsTo_eq 4 hshort).symm.trans hsteps
    exact hway
  · cases hnone

end FacetedGraph
