import FacetedGraph.Proofs.Paths

/-!
# Ties between lightest paths

A search settles on one of the lightest paths before it is asked how long the path may be. So a
path that is short enough can be lost to one of the same weight that is not. Where the two nodes
are linked and the link is as light as any path, that cannot happen, since a search does not give
up what it found for something that costs as much, and it starts with the links of the source.

## Main definitions

* `Search.Straight` — a node that costs no less than a link from the source is known from there.
* `MemoryStore.tied` — a store in which a short path is lost.

## Main statements

* `Search.Straight.relax`, `Search.Invariant.straight_next`, `Search.Invariant.straight_run` — every
  search keeps to the links of the source.
* `Graph.Sound.length_eq_one` — a link as light as any path is not lost.
* `Engine.paths_settle` — the path that a search settles on, and when it is reported.
* `Engine.paths_lost` — a lightest path that is lost.
-/

namespace FacetedGraph

namespace Search

variable {g : Graph} {source target v : NodeId} {s t : Search} {settled : List NodeId}
  {level : Magnitude} {e : Entry} {step : Relationship × NodeId}

/-- The source is settled before all others. -/
theorem Grown.source_mem (h : s.Grown g source settled) (hsome : settled ≠ []) :
    source ∈ settled := by
  induction h with
  | nil => exact absurd rfl hsome
  | cons _ harrived _ ih =>
    rcases harrived with ⟨rfl, -⟩ | ⟨u, hu, -⟩
    · exact List.mem_cons_self
    · exact List.mem_cons_of_mem _ (ih (List.ne_nil_of_mem hu))

/-- A node that is known at no less than what a link from the source costs is known from the
source. -/
def Straight (g : Graph) (source : NodeId) (s : Search) : Prop :=
  ∀ v ≠ source, ∀ a, s.arrival? v = some a → ∀ r ∈ g.relationships,
    r.otherEnd source = some v → walkCost [r] ≤ a.cost → ∃ id, a.step = some (source, id)

theorem straight_start (g : Graph) (source : NodeId) : (start source).Straight g source := by
  intro v hv a ha
  rw [arrival?, start, List.lookup_cons, beq_false_of_ne hv] at ha
  cases ha

/-- Once the source is settled, a link that it has is as good as known, and is not given up for
another way of the same cost. -/
theorem Straight.relax (hd : s.Straight g source) (h : g.Sound)
    {pending : List (Relationship × NodeId)}
    (hi : Invariant g source e.cost settled (pending.map (e.node, ·)) s) (hs : source ∈ settled) :
    (s.relax e step).Straight g source := by
  by_cases himproves : s.improves (e.cost + step.1.cost) step.2
  · intro v hv a ha r hr ho hle
    rw [arrival?_relax himproves] at ha
    split at ha
    case isFalse => exact hd v hv a ha r hr ho hle
    case isTrue heq =>
      cases ha
      by_cases hsource : e.node = source
      · exact ⟨_, by rw [hsource]⟩
      · have hknown := hi.relaxed source hs _ hi.source_arrival (r, v) (h.mem_steps.2 ⟨hr, ho⟩)
        rcases hknown with hpending | ⟨b, hb, hbr⟩
        · obtain ⟨_, -, hfirst⟩ := List.mem_map.1 hpending
          exact absurd (Prod.mk.inj hfirst).1 hsource
        · -- the link is known, and is no dearer than what was to improve on it
          have hlt := improves_iff.1 himproves b (heq ▸ hb)
          exact absurd (lt_of_lt_of_le hlt hbr) (not_lt_of_ge hle)
  · rwa [relax_of_not_improves himproves]

theorem Invariant.straight_relaxAll {steps : List (Relationship × NodeId)}
    (hi : Invariant g source e.cost settled (steps.map (e.node, ·)) s) (h : g.Sound)
    (he : e.node ∈ settled) {a : Arrival} (ha : s.arrival? e.node = some a)
    (hcost : a.cost = e.cost) (hsteps : ∀ step ∈ steps, step ∈ g.steps e.node)
    (hs : source ∈ settled) (hd : s.Straight g source) :
    (steps.foldl (Search.relax e) s).Straight g source := by
  refine (hi.relaxAll_induct h he ha hcost hsteps (Straight g source) hd
    fun t step pending ht hkept => ?_).2
  exact hkept.relax h ht hs

theorem Invariant.straight_next (hi : Invariant g source level settled [] s) (h : g.Sound)
    (hnext : s.next g target = some t) (hd : s.Straight g source) : t.Straight g source := by
  obtain ⟨e, rest, hq, -, ⟨-, rfl⟩ | ⟨hnot, rfl⟩⟩ := next_eq_some hnext
  · exact hd
  · obtain ⟨-, a, ha, hcost⟩ := hi.unsettled (hq ▸ List.mem_cons_self) hnot
    have hsettled := hi.settle hq hnot
    have hsource := hsettled.grown.source_mem (List.cons_ne_nil _ _)
    exact hsettled.straight_relaxAll h List.mem_cons_self ha hcost (fun _ => id) hsource hd

theorem Invariant.straight_run (hi : Invariant g source level settled [] s) (h : g.Sound)
    (fuel : Nat) (hd : s.Straight g source) :
    (Search.run g target fuel s).Straight g source := by
  induction fuel generalizing s level settled with
  | zero => exact hd
  | succ fuel ih =>
    rw [Search.run]
    cases hnext : s.next g target with
    | none => exact hd
    | some t =>
      obtain ⟨_, _, -, -, hi', -⟩ := hi.next h hnext
      exact ih hi' (hi.straight_next h hnext hd)

/-- A node known from the source is one step away on the way back. -/
theorem stepsTo_of_step {a : Arrival} {id : RelationshipId} (ha : s.arrival? v = some a)
    (hv : v ≠ source) (hstep : a.step = some (source, id)) (fuel : Nat) :
    s.stepsTo source (fuel + 2) v = some [(source, id)] := by
  rw [stepsTo, if_neg hv, ha]
  simp [hstep, stepsTo]

end Search

namespace Graph

variable {g : Graph} {source target : NodeId} {p : WeightedPath} {r : Relationship}

/-- A link as light as the path that is found means that the path is a link too. -/
theorem Sound.length_eq_one (h : g.Sound) (hne : source ≠ target)
    (hp : g.lightestPath source target = some p) (hr : r ∈ g.relationships)
    (ho : r.otherEnd source = some target) (hle : walkCost [r] ≤ p.weight) :
    p.relationships.length = 1 := by
  have hsource : (g.node? source).isSome :=
    h.isSome_node?_of_otherEnd hr (Relationship.otherEnd_symm ho)
  have hstraight : (g.search source target).Straight g source :=
    (Search.invariant_start hsource).straight_run h _ (Search.straight_start g source)
  simp only [lightestPath, Option.bind_eq_bind, Option.bind_eq_some_iff, pure,
    Option.some.injEq] at hp
  obtain ⟨a, ha, steps, hback, nodes, -, n, -, rs, hrs, rfl⟩ := hp
  obtain ⟨id, hstep⟩ := hstraight target hne.symm a ha r hr ho hle
  -- from the target one step leads back, and there is fuel for it
  obtain ⟨k, hk⟩ : ∃ k, g.nodes.size = k + 1 := by
    obtain ⟨m, hm⟩ := Option.isSome_iff_exists.1 hsource
    obtain ⟨hlt, -⟩ := Array.getElem?_eq_some_iff.1 hm
    exact Nat.exists_eq_add_one.2 (Nat.zero_lt_of_lt hlt)
  rw [hk, Search.stepsTo_of_step ha hne.symm hstep] at hback
  cases hback
  have hone : [id].mapM g.relationship? = some rs := hrs
  rw [List.mapM_cons, List.mapM_nil] at hone
  obtain ⟨q, -, heq⟩ := Option.bind_eq_some_iff.1 hone
  cases heq
  rfl

/-- What is found between two nodes that are joined is what the search settles on, if it is short
enough. -/
theorem Sound.pathWithin?_eq (h : g.Sound) (hne : source ≠ target)
    (hp : g.lightestPath source target = some p) {rs : List Relationship}
    (hw : g.Walk source rs target) (maxDepth : Nat) :
    g.pathWithin? maxDepth source target =
      if p.relationships.length ≤ maxDepth then some p else none := by
  have hsource := h.isSome_node?_of_walk_ne hw hne
  have htarget := h.isSome_node?_of_walk hw hsource
  split
  case isTrue hfits => exact pathWithin?_eq_some.2 ⟨hne, hsource, htarget, hp, hfits⟩
  case isFalse hlong =>
    refine Option.eq_none_iff_forall_ne_some.2 fun q hq => hlong ?_
    obtain ⟨-, -, -, hfound, hfits⟩ := pathWithin?_eq_some.1 hq
    cases hp.symm.trans hfound
    exact hfits

end Graph

/-! ## A graph with a tie -/

/-- Two ways lead from `0` to `4` at the weight of three: over `1` and `2` with three links, and
over `3` with two. -/
def MemoryStore.tied : MemoryStore :=
  let s := (({} : MemoryStore).createNode ["COMPANY"] []).1
  let s := (s.createNode ["COMPANY"] []).1
  let s := (s.createNode ["COMPANY"] []).1
  let s := (s.createNode ["COMPANY"] []).1
  let s := (s.createNode ["COMPANY"] []).1
  let s := (s.createRelationship ⟨0⟩ ⟨1⟩ "LINKED" []).1
  let s := (s.createRelationship ⟨1⟩ ⟨2⟩ "LINKED" []).1
  let s := (s.createRelationship ⟨2⟩ ⟨4⟩ "LINKED" []).1
  let s := (s.createRelationship ⟨0⟩ ⟨3⟩ "LINKED" [("weight", .int 2)]).1
  (s.createRelationship ⟨3⟩ ⟨4⟩ "LINKED" []).1

namespace MemoryStore

theorem healthy_tied : tied.Healthy := ⟨rfl, rfl, rfl⟩

theorem built_tied : tied.graph.Built := by
  repeat' first | exact .empty | apply built_createRelationship | apply built_createNode

theorem pathWithin?_tied_two : tied.graph.pathWithin? 2 ⟨0⟩ ⟨4⟩ = none :=
  Option.isNone_iff_eq_none.1 (by decide +kernel)

theorem pathWithin?_tied_three : (tied.graph.pathWithin? 3 ⟨0⟩ ⟨4⟩).isSome := by decide +kernel

theorem weight_tied : (tied.graph.lightestPath ⟨0⟩ ⟨4⟩).map (·.weight) = some (.ofNat 3) := by
  decide +kernel

/-- The link from `0` to `3`. -/
def outward : Relationship := ⟨⟨3⟩, ⟨0⟩, ⟨3⟩, "LINKED", [("weight", .int 2)]⟩

/-- The link from `3` to `4`. -/
def onward : Relationship := ⟨⟨4⟩, ⟨3⟩, ⟨4⟩, "LINKED", []⟩

/-- The way over `3`. -/
def shortcut : WeightedPath where
  nodes := [⟨⟨0⟩, ["COMPANY"], []⟩, ⟨⟨3⟩, ["COMPANY"], []⟩, ⟨⟨4⟩, ["COMPANY"], []⟩]
  relationships := [outward, onward]
  weight := .ofNat 3

theorem outward_mem : outward ∈ tied.graph.relationships := by
  have hplace : tied.graph.relationships[3]? = some outward := rfl
  exact Array.mem_of_getElem? hplace

theorem onward_mem : onward ∈ tied.graph.relationships := by
  have hplace : tied.graph.relationships[4]? = some onward := rfl
  exact Array.mem_of_getElem? hplace

theorem lightest_shortcut : tied.graph.Lightest ⟨0⟩ ⟨4⟩ shortcut where
  route := ((Graph.Route.nil _ ⟨0⟩).snoc outward_mem rfl).snoc onward_mem rfl
  walk := .cons outward_mem rfl (.cons onward_mem rfl (.nil _))
  nodup := by decide
  stored := by
    have hfirst : tied.graph.nodes[0]? = some ⟨⟨0⟩, ["COMPANY"], []⟩ := rfl
    have hmiddle : tied.graph.nodes[3]? = some ⟨⟨3⟩, ["COMPANY"], []⟩ := rfl
    have hlast : tied.graph.nodes[4]? = some ⟨⟨4⟩, ["COMPANY"], []⟩ := rfl
    exact List.forall_mem_cons.2 ⟨Array.mem_of_getElem? hfirst, List.forall_mem_cons.2
      ⟨Array.mem_of_getElem? hmiddle, List.forall_mem_singleton.2 (Array.mem_of_getElem? hlast)⟩⟩
  weight_eq := by decide +kernel
  least rs hw := by
    obtain ⟨p, hp, hweight⟩ := Option.map_eq_some_iff.1 weight_tied
    have hsource : (tied.graph.node? ⟨0⟩).isSome := rfl
    rcases built_tied.sound.lightestPath_cases hsource ⟨4⟩ with ⟨q, hq, hlightest⟩ | ⟨hnone, -⟩
    · obtain rfl := Option.some_inj.1 (hp.symm.trans hq)
      have hle := hlightest.least rs hw
      rw [hweight] at hle
      exact hle
    · cases hp.symm.trans hnone

end MemoryStore

/-! ## Path searches -/

namespace Engine

variable {s : MemoryStore} {source target : NodeId}

/-- A search between two nodes reports what is found between them. -/
theorem paths_pair (hs : s.Healthy) (e : Engine) (hne : source ≠ target) {maxDepth : Nat}
    (hdepth : 1 ≤ maxDepth ∧ maxDepth ≤ maxPathDepth) :
    ∃ result, (e.paths [source] [target] maxDepth).run s = (.ok result, s) ∧
      result.paths =
        ((s.graph.pathWithin? maxDepth source target).map WeightedPath.view).toList := by
  refine ⟨_, paths_ok hs e [source] [target] hdepth, ?_⟩
  have hsingle (id : NodeId) : distinct [id] = [id] := by simp [distinct, firstBy, freshBy]
  have htargets : apart [source] [target] = [target] := by simp [apart, hsingle, hne.symm]
  have hfound : s.graph.lightestPaths (distinct [source]) (apart [source] [target]) maxDepth =
      (s.graph.pathWithin? maxDepth source target).toList := by
    rw [Graph.lightestPaths_eq, htargets, hsingle, hsingle, hsingle, List.flatMap_singleton,
      List.filterMap_cons]
    cases s.graph.pathWithin? maxDepth source target <;> rfl
  dsimp only
  rw [hfound]
  cases s.graph.pathWithin? maxDepth source target with
  | none => rw [Option.toList_none, List.mergeSort_nil]; rfl
  | some p => exact congrArg (List.map WeightedPath.view) (List.mergeSort_singleton p)

/-- A search between two nodes settles on one of the lightest paths, the same for every depth that
is asked for, and reports just this one if it is short enough. Without a walk there is nothing to
report. A link between the two nodes that is as light as any path is not lost. -/
theorem paths_settle (hs : s.Healthy) (hb : s.graph.Built) (e : Engine) (hne : source ≠ target) :
    (∃ p, s.graph.Lightest source target p ∧
      (∀ maxDepth, 1 ≤ maxDepth ∧ maxDepth ≤ 6 →
        ∃ result, (e.paths [source] [target] maxDepth).run s = (.ok result, s) ∧
          result.paths = if p.relationships.length ≤ maxDepth then [p.view] else []) ∧
      ((∃ q, s.graph.Lightest source target q ∧ q.relationships.length = 1) →
        p.relationships.length = 1)) ∨
    (∀ rs, ¬ s.graph.Walk source rs target) ∧
      ∀ maxDepth, 1 ≤ maxDepth ∧ maxDepth ≤ 6 →
        ∃ result, (e.paths [source] [target] maxDepth).run s = (.ok result, s) ∧
          result.paths = [] := by
  have hsound := hb.sound
  by_cases hw : ∃ rs, s.graph.Walk source rs target
  · obtain ⟨rs, hw⟩ := hw
    have hsource := hsound.isSome_node?_of_walk_ne hw hne
    obtain ⟨p, hp, hlightest⟩ :=
      (hsound.lightestPath_cases hsource target).resolve_right fun hnone => hnone.2 rs hw
    refine .inl ⟨p, hlightest, fun maxDepth hdepth => ?_, ?_⟩
    · obtain ⟨result, hrun, hpaths⟩ := paths_pair hs e hne hdepth
      refine ⟨result, hrun, ?_⟩
      rw [hpaths, hsound.pathWithin?_eq hne hp hw]
      split <;> rfl
    · rintro ⟨q, hq, hlength⟩
      obtain ⟨r, hr⟩ := List.length_eq_one_iff.1 hlength
      have hlink := hq.walk
      rw [hr] at hlink
      obtain _ | ⟨hmem, ho, hrest⟩ := hlink
      cases hrest
      refine hsound.length_eq_one hne hp hmem ho ?_
      calc walkCost [r] = q.weight := by rw [hq.weight_eq, hr]
        _ ≤ walkCost p.relationships := hq.least _ hlightest.walk
        _ = p.weight := hlightest.weight_eq.symm
  · refine .inr ⟨fun rs hrs => hw ⟨rs, hrs⟩, fun maxDepth hdepth => ?_⟩
    obtain ⟨result, hrun, hpaths⟩ := paths_pair hs e hne hdepth
    refine ⟨result, hrun, ?_⟩
    have hnone : s.graph.pathWithin? maxDepth source target = none :=
      Option.eq_none_iff_forall_ne_some.2 fun p hp =>
        hw ⟨_, (hsound.lightest_of_pathWithin? hp).walk⟩
    rw [hpaths, hnone]
    rfl

/-- The path that is settled on has more than two links and no more than three. -/
theorem paths_settle_tied :
    MemoryStore.tied.Healthy ∧ MemoryStore.tied.graph.Built ∧ (⟨0⟩ : NodeId) ≠ ⟨4⟩ ∧
      ∃ p, MemoryStore.tied.graph.Lightest ⟨0⟩ ⟨4⟩ p ∧
        (∃ result, (paths {} [⟨0⟩] [⟨4⟩] 2).run MemoryStore.tied = (.ok result, MemoryStore.tied) ∧
          result.paths = []) ∧
        ∃ result, (paths {} [⟨0⟩] [⟨4⟩] 3).run MemoryStore.tied = (.ok result, MemoryStore.tied) ∧
          result.paths = [p.view] := by
  have hne : (⟨0⟩ : NodeId) ≠ ⟨4⟩ := by decide
  obtain ⟨p, hp, hfound, -⟩ :=
    (paths_settle MemoryStore.healthy_tied MemoryStore.built_tied {} hne).resolve_right
      fun hnone => hnone.1 _ MemoryStore.lightest_shortcut.walk
  refine ⟨MemoryStore.healthy_tied, MemoryStore.built_tied, hne, p, hp, ?_, ?_⟩
  · obtain ⟨result, hrun, hpaths⟩ := paths_pair MemoryStore.healthy_tied {} hne
      (by decide : 1 ≤ 2 ∧ 2 ≤ maxPathDepth)
    rw [MemoryStore.pathWithin?_tied_two] at hpaths
    exact ⟨result, hrun, hpaths⟩
  · obtain ⟨result, hrun, hpaths⟩ := hfound 3 (by decide)
    refine ⟨result, hrun, ?_⟩
    split at hpaths
    case isTrue => exact hpaths
    case isFalse =>
      -- a search over three links does report something
      obtain ⟨other, hother, hreported⟩ := paths_pair MemoryStore.healthy_tied {} hne
        (by decide : 1 ≤ 3 ∧ 3 ≤ maxPathDepth)
      obtain rfl := Except.ok.inj (Prod.mk.inj (hrun.symm.trans hother)).1
      obtain ⟨q, hq⟩ := Option.isSome_iff_exists.1 MemoryStore.pathWithin?_tied_three
      rw [hpaths, hq] at hreported
      cases hreported

/-- The way over `3` is a lightest path of two links, but a search that allows for two links gives
nothing, since it settles on the other way. -/
theorem paths_lost :
    MemoryStore.tied.Healthy ∧ MemoryStore.tied.graph.Built ∧
      MemoryStore.tied.graph.Lightest ⟨0⟩ ⟨4⟩ MemoryStore.shortcut ∧
      MemoryStore.shortcut.relationships.length = 2 ∧
      ∃ result, (paths {} [⟨0⟩] [⟨4⟩] 2).run MemoryStore.tied = (.ok result, MemoryStore.tied) ∧
        result.paths = [] := by
  obtain ⟨result, hrun, hpaths⟩ := paths_pair MemoryStore.healthy_tied {}
    (by decide : (⟨0⟩ : NodeId) ≠ ⟨4⟩) (by decide : 1 ≤ 2 ∧ 2 ≤ maxPathDepth)
  rw [MemoryStore.pathWithin?_tied_two] at hpaths
  exact ⟨MemoryStore.healthy_tied, MemoryStore.built_tied, MemoryStore.lightest_shortcut, rfl,
    result, hrun, hpaths⟩

end Engine

end FacetedGraph
