import FacetedGraph.Proofs.Result.Rows
import FacetedGraph.Proofs.Search.Trace
import FacetedGraph.Proofs.Store.Healthy

/-!
# Path search

A path search over a healthy store gives lightest paths from sources to targets, at most one for
each pair, in ascending order of weight and length.

## Main definitions

* `Relationship.Costs` — what a relationship has to cost.
* `WeightedPath.ends`, `WeightedPath.view` — a path by its ends, and as callers see it.

## Main statements

* `Graph.mem_lightestPaths`, `Graph.Sound.nodup_ends_lightestPaths`.
* `Graph.pairwise_lighter` — the order of paths.
* `Engine.paths_lightest` — the paths that a search gives.
-/

namespace FacetedGraph

namespace Relationship

/-- A relationship costs its weight, but at least zero, and zero if the weight is NaN. One without
a weight that is a number costs one. -/
def Costs (r : Relationship) (cost : Magnitude) : Prop :=
  match (r.get? "weight").bind Value.toFloat with
  | some x => (Binary64.ofMagnitude cost).place = some (max 0 (x.place.getD 0))
  | none => cost = .one

theorem costs_cost (r : Relationship) : r.Costs r.cost := by
  unfold Costs cost
  cases (r.get? "weight").bind Value.toFloat with
  | some x => exact x.place_toCost
  | none => rfl

end Relationship

namespace WeightedPath

def ends (p : WeightedPath) : Option NodeId × Option NodeId :=
  ((p.nodes.map NodeOf.id).head?, (p.nodes.map NodeOf.id).getLast?)

def view (p : WeightedPath) : PathView where
  nodes := p.nodes.map (·.id.text)
  relationships := p.relationships.map (·.id.text)
  weight := .ofMagnitude p.weight

end WeightedPath

/-! ## Paths between sources and targets -/

namespace Graph

variable {g : Graph} {sources targets : List NodeId} {maxDepth : Nat} {p : WeightedPath}

theorem Lightest.ends_eq {source target : NodeId} (h : g.Lightest source target p) :
    p.ends = (some source, some target) :=
  Prod.ext h.route.first h.route.last

theorem Lightest.length_pos {source target : NodeId} (h : g.Lightest source target p)
    (hne : source ≠ target) : 1 ≤ p.relationships.length := by
  refine List.length_pos_iff.2 fun hnil => hne ?_
  have hw := h.walk
  rw [hnil] at hw
  cases hw
  rfl

/-- What a source and a target contribute to a search. -/
def pathWithin? (g : Graph) (maxDepth : Nat) (source target : NodeId) : Option WeightedPath :=
  if source = target ∨ (g.node? source).isNone ∨ (g.node? target).isNone then none
  else (g.lightestPath source target).filter fun p => p.relationships.length ≤ maxDepth

theorem lightestPaths_eq (g : Graph) (sources targets : List NodeId) (maxDepth : Nat) :
    g.lightestPaths sources targets maxDepth =
      (distinct sources).flatMap fun s => (distinct targets).filterMap (g.pathWithin? maxDepth s) :=
  rfl

theorem lightestPaths_of_isEmpty (g : Graph) {sources targets : List NodeId} (maxDepth : Nat)
    (h : (sources.isEmpty || targets.isEmpty) = true) :
    g.lightestPaths sources targets maxDepth = [] := by
  rw [Bool.or_eq_true, List.isEmpty_iff, List.isEmpty_iff] at h
  rcases h with rfl | rfl
  · rfl
  · exact List.flatMap_eq_nil_iff.2 fun _ _ => rfl

theorem pathWithin?_eq_some {source target : NodeId} :
    g.pathWithin? maxDepth source target = some p ↔
      source ≠ target ∧ (g.node? source).isSome ∧ (g.node? target).isSome ∧
        g.lightestPath source target = some p ∧ p.relationships.length ≤ maxDepth := by
  unfold pathWithin?
  split
  case isTrue hnone =>
    constructor
    · intro h
      cases h
    · rintro ⟨hne, hs, ht, -⟩
      rcases hnone with rfl | hnone | hnone
      · exact absurd rfl hne
      · simp [Option.isNone_iff_eq_none.1 hnone] at hs
      · simp [Option.isNone_iff_eq_none.1 hnone] at ht
  case isFalse hsome =>
    simp only [not_or, Bool.not_eq_true, Option.isNone_eq_false_iff] at hsome
    rw [Option.filter_eq_some_iff, decide_eq_true_eq]
    exact ⟨fun ⟨hpath, hlen⟩ => ⟨hsome.1, hsome.2.1, hsome.2.2, hpath, hlen⟩,
      fun ⟨_, _, _, hpath, hlen⟩ => ⟨hpath, hlen⟩⟩

theorem Sound.lightest_of_pathWithin? (h : g.Sound) {source target : NodeId}
    (hp : g.pathWithin? maxDepth source target = some p) : g.Lightest source target p := by
  obtain ⟨-, hsource, -, hpath, -⟩ := pathWithin?_eq_some.1 hp
  rcases h.lightestPath_cases hsource target with ⟨q, hq, hlightest⟩ | ⟨hnone, -⟩
  · cases hpath.symm.trans hq
    exact hlightest
  · cases hpath.symm.trans hnone

theorem mem_lightestPaths : p ∈ g.lightestPaths sources targets maxDepth ↔
    ∃ s ∈ sources, ∃ t ∈ targets, g.pathWithin? maxDepth s t = some p := by
  simp only [lightestPaths_eq, List.mem_flatMap, List.mem_filterMap, mem_distinct]

/-- Where there is a walk, a path is found if the lightest ones are short enough. -/
theorem Sound.exists_pathWithin? (h : g.Sound) {source target : NodeId} {rs : List Relationship}
    (hne : source ≠ target) (hw : g.Walk source rs target)
    (hfit : ∀ p, g.Lightest source target p → p.relationships.length ≤ maxDepth) :
    ∃ p, g.pathWithin? maxDepth source target = some p := by
  have hsource := h.isSome_node?_of_walk_ne hw hne
  have htarget := h.isSome_node?_of_walk hw hsource
  rcases h.lightestPath_cases hsource target with ⟨p, hp, hlightest⟩ | ⟨-, hnone⟩
  · exact ⟨p, pathWithin?_eq_some.2 ⟨hne, hsource, htarget, hp, hfit p hlightest⟩⟩
  · exact absurd hw (hnone rs)

/-- No two paths lead from one node to one other. -/
theorem Sound.nodup_ends_lightestPaths (h : g.Sound) (sources targets : List NodeId)
    (maxDepth : Nat) :
    ((g.lightestPaths sources targets maxDepth).map WeightedPath.ends).Nodup := by
  have hends {s t : NodeId} {p : WeightedPath} (hp : g.pathWithin? maxDepth s t = some p) :
      p.ends = (some s, some t) := (h.lightest_of_pathWithin? hp).ends_eq
  rw [lightestPaths_eq, List.map_flatMap, List.nodup_flatMap]
  constructor
  · intro s _
    rw [List.Nodup, List.pairwise_map, List.pairwise_filterMap]
    refine (nodup_distinct targets).imp fun hne p hp q hq heq => hne ?_
    rw [hends hp, hends hq] at heq
    exact Option.some_inj.1 (Prod.mk.inj heq).2
  · refine (nodup_distinct sources).imp fun hne ends hs ht => hne ?_
    obtain ⟨p, hp, rfl⟩ := List.mem_map.1 hs
    obtain ⟨q, hq, heq⟩ := List.mem_map.1 ht
    obtain ⟨_, -, hp⟩ := List.mem_filterMap.1 hp
    obtain ⟨_, -, hq⟩ := List.mem_filterMap.1 hq
    rw [hends hp, hends hq] at heq
    exact Option.some_inj.1 (Prod.mk.inj heq).1.symm

/-! ## Order -/

/-- A path comes before those that are heavier, and of one weight before those that are longer. -/
def Precedes (p q : WeightedPath) : Prop :=
  p.weight < q.weight ∨ p.weight = q.weight ∧ p.relationships.length ≤ q.relationships.length

theorem lighter_iff {p q : WeightedPath} : lighter p q ↔ Precedes p q := by
  simp [lighter, Precedes]

theorem Precedes.trans {p q r : WeightedPath} (hpq : Precedes p q) (hqr : Precedes q r) :
    Precedes p r := by
  rcases hpq with hpq | ⟨heq, hpq⟩
  · rcases hqr with hqr | ⟨hqr, -⟩
    · exact .inl (lt_trans hpq hqr)
    · exact .inl (hqr ▸ hpq)
  · rcases hqr with hqr | ⟨heq', hqr⟩
    · exact .inl (heq ▸ hqr)
    · exact .inr ⟨heq.trans heq', Nat.le_trans hpq hqr⟩

theorem Precedes.total (p q : WeightedPath) : Precedes p q ∨ Precedes q p := by
  rcases lt_trichotomy p.weight q.weight with hlt | heq | hgt
  · exact .inl (.inl hlt)
  · rcases Nat.le_total p.relationships.length q.relationships.length with hle | hle
    · exact .inl (.inr ⟨heq, hle⟩)
    · exact .inr (.inr ⟨heq.symm, hle⟩)
  · exact .inr (.inl hgt)

theorem pairwise_lighter (paths : List WeightedPath) :
    (paths.mergeSort lighter).Pairwise Precedes := by
  have htrans (p q r : WeightedPath) (hpq : lighter p q) (hqr : lighter q r) : lighter p r :=
    lighter_iff.2 ((lighter_iff.1 hpq).trans (lighter_iff.1 hqr))
  have htotal (p q : WeightedPath) : (lighter p q || lighter q p) = true := by
    rw [Bool.or_eq_true, lighter_iff, lighter_iff]
    exact Precedes.total p q
  exact (List.pairwise_mergeSort htrans htotal paths).imp lighter_iff.1

end Graph

/-! ## Path searches over a healthy store -/

namespace Engine

variable {s : MemoryStore} {sources targets : List NodeId} {maxDepth : Nat}

/-- The row of a path reads back as the path. -/
theorem pathOfRow_pathRow (p : WeightedPath) : pathOfRow (Graph.pathRow p) = .ok p.view := by
  have hnodes : (Graph.pathRow p).read "path_nodes" (Read.list Read.node) = .ok p.nodes :=
    Read.list_ofNodes p.nodes
  have hrelationships : (Graph.pathRow p).read "path_relationships"
      (Read.list Read.relationship) = .ok p.relationships :=
    Read.list_ofRelationships p.relationships
  rw [pathOfRow, hnodes, hrelationships]
  rfl

theorem mapM_pathOfRow (paths : List WeightedPath) :
    (paths.map Graph.pathRow).mapM pathOfRow = .ok (paths.map WeightedPath.view) := by
  rw [List.mapM_map]
  exact mapM_ok fun p _ => pathOfRow_pathRow p

/-- The targets that are not sources. -/
def apart (sources targets : List NodeId) : List NodeId :=
  (distinct targets).filter fun t => !(distinct sources).contains t

theorem mem_apart {t : NodeId} : t ∈ apart sources targets ↔ t ∈ targets ∧ t ∉ sources := by
  simp [apart]

theorem validate_paths (sources targets : List NodeId)
    (hdepth : 1 ≤ maxDepth ∧ maxDepth ≤ maxPathDepth) :
    (Pattern.paths (distinct sources) (apart sources targets) maxDepth).validate = .ok () := by
  have hnone : (distinct sources).find? (apart sources targets).contains = none := by
    refine List.find?_eq_none.2 fun source hsource hshared => ?_
    exact (mem_apart.1 (List.contains_iff_mem.1 hshared)).2 (mem_distinct.1 hsource)
  simp only [Pattern.validate, Pattern.checkRange, if_pos hdepth, hnone, bind, Except.bind]

theorem paths_eq {σ : Type} [Store σ] (e : Engine) (sources targets : List NodeId)
    (maxDepth : Nat) :
    e.paths sources targets maxDepth = (do
      MonadExcept.ofExcept (Pattern.paths (distinct sources) (apart sources targets)
        maxDepth).validate
      if (distinct sources).isEmpty || (apart sources targets).isEmpty then return {}
      let rows ← e.run { pattern := .paths (distinct sources) (apart sources targets) maxDepth }
      return { paths := ← MonadExcept.ofExcept (rows.mapM pathOfRow)
               graph := Subgraph.ofRows rows } : Call σ PathsResult) :=
  rfl

/-- A search gives the paths that the graph finds, with what they lead over. -/
theorem paths_ok (hs : s.Healthy) (e : Engine) (sources targets : List NodeId)
    (hdepth : 1 ≤ maxDepth ∧ maxDepth ≤ maxPathDepth) :
    (e.paths sources targets maxDepth).run s =
      (.ok { paths := ((s.graph.lightestPaths (distinct sources) (apart sources targets)
              maxDepth).mergeSort Graph.lighter).map WeightedPath.view
             graph := Subgraph.ofRows (s.graph.searchPaths (distinct sources)
              (apart sources targets) maxDepth) }, s) := by
  have hvalidate := validate_paths sources targets hdepth
  have hrun : (e.run { pattern := .paths (distinct sources) (apart sources targets) maxDepth }).run
      s = (.ok (s.graph.searchPaths (distinct sources) (apart sources targets) maxDepth), s) :=
    hs.run_plan e (Plan.check_unfiltered hvalidate .default)
  rw [paths_eq, hvalidate, Call.run_bind_ok (Call.run_ofExcept _ s)]
  split
  case isTrue hempty =>
    rw [Graph.searchPaths, s.graph.lightestPaths_of_isEmpty maxDepth hempty, List.mergeSort_nil]
    rfl
  case isFalse hsome =>
    rw [Call.run_bind_ok hrun, Graph.searchPaths, mapM_pathOfRow,
      Call.run_bind_ok (Call.run_ofExcept _ s)]
    rfl

/-- A path search gives at most one path for each source and each target that is not a source. It
is a path without repetition within the depth, it costs what its relationships cost by their
weights, and no walk between its ends costs less. There is one where a walk leads from the one to
the other, unless lightest paths are too long. The paths stand in ascending order of weight and
length. -/
theorem paths_lightest (hs : s.Healthy) (hb : s.graph.Built) (e : Engine)
    (sources targets : List NodeId) (hdepth : 1 ≤ maxDepth ∧ maxDepth ≤ maxPathDepth) :
    ∃ (result : PathsResult) (found : List WeightedPath),
      (e.paths sources targets maxDepth).run s = (.ok result, s) ∧
      result.paths = found.map WeightedPath.view ∧
      (found.map WeightedPath.ends).Nodup ∧
      (∀ p ∈ found, ∃ source ∈ sources, ∃ target ∈ targets, target ∉ sources ∧
        s.graph.Lightest source target p ∧
        1 ≤ p.relationships.length ∧ p.relationships.length ≤ maxDepth) ∧
      (∀ source ∈ sources, ∀ target ∈ targets, target ∉ sources →
        (∃ rs, s.graph.Walk source rs target) →
        (∀ p, s.graph.Lightest source target p → p.relationships.length ≤ maxDepth) →
        ∃ p ∈ found, p.ends = (some source, some target)) ∧
      (found.Pairwise fun p q => p.weight < q.weight ∨
        p.weight = q.weight ∧ p.relationships.length ≤ q.relationships.length) ∧
      ∀ r : Relationship, r.Costs r.cost := by
  have hsound := hb.sound
  have hrun := paths_ok hs e sources targets hdepth
  refine ⟨_, _, hrun, rfl, ?_, fun p hp => ?_, ?_, Graph.pairwise_lighter _,
    Relationship.costs_cost⟩
  · have hperm := List.mergeSort_perm (s.graph.lightestPaths (distinct sources)
      (apart sources targets) maxDepth) Graph.lighter
    exact ((hperm.map _).nodup_iff).2 (hsound.nodup_ends_lightestPaths _ _ _)
  · obtain ⟨source, hsource, target, htarget, hp⟩ :=
      Graph.mem_lightestPaths.1 (List.mem_mergeSort.1 hp)
    obtain ⟨htarget, hapart⟩ := mem_apart.1 htarget
    obtain ⟨hne, -, -, -, hlength⟩ := Graph.pathWithin?_eq_some.1 hp
    have hlightest := hsound.lightest_of_pathWithin? hp
    exact ⟨source, mem_distinct.1 hsource, target, htarget, hapart, hlightest,
      hlightest.length_pos hne, hlength⟩
  · rintro source hsource target htarget hapart ⟨rs, hw⟩ hfit
    have hne : source ≠ target := by
      rintro rfl
      exact hapart hsource
    obtain ⟨p, hp⟩ := hsound.exists_pathWithin? hne hw hfit
    refine ⟨p, List.mem_mergeSort.2 (Graph.mem_lightestPaths.2 ?_),
      (hsound.lightest_of_pathWithin? hp).ends_eq⟩
    exact ⟨source, mem_distinct.2 hsource, target, mem_apart.2 ⟨htarget, hapart⟩, hp⟩

theorem paths_sample :
    MemoryStore.sample.Healthy ∧ MemoryStore.sample.graph.Built ∧
      (1 ≤ 2 ∧ 2 ≤ maxPathDepth) ∧
      ∃ result, (paths {} [⟨1⟩, ⟨1⟩] [⟨2⟩, ⟨0⟩, ⟨1⟩, ⟨3⟩] 2).run MemoryStore.sample =
          (.ok result, MemoryStore.sample) ∧
        result.paths.map (fun p => (p.nodes, p.relationships)) =
          [(["1", "2"], ["1"]), (["1", "2", "0"], ["1", "3"])] := by
  have hdepth : 1 ≤ 2 ∧ 2 ≤ maxPathDepth := by decide
  refine ⟨MemoryStore.healthy_sample, MemoryStore.built_sample, hdepth, ?_⟩
  obtain ⟨result, _, hrun, -⟩ := paths_lightest MemoryStore.healthy_sample
    MemoryStore.built_sample {} [⟨1⟩, ⟨1⟩] [⟨2⟩, ⟨0⟩, ⟨1⟩, ⟨3⟩] hdepth
  refine ⟨result, hrun, ?_⟩
  have hpaths := paths_ok MemoryStore.healthy_sample {} [⟨1⟩, ⟨1⟩] [⟨2⟩, ⟨0⟩, ⟨1⟩, ⟨3⟩] hdepth
  -- the paths are found in order, so that sorting leaves them as they are
  have hsorted : (MemoryStore.sample.graph.lightestPaths (distinct [⟨1⟩, ⟨1⟩])
      (apart [⟨1⟩, ⟨1⟩] [⟨2⟩, ⟨0⟩, ⟨1⟩, ⟨3⟩]) 2).Pairwise (Graph.lighter · ·) := by
    decide +kernel
  rw [List.mergeSort_of_pairwise hsorted] at hpaths
  obtain rfl := Except.ok.inj (Prod.mk.inj (hrun.symm.trans hpaths)).1
  dsimp only
  decide +kernel

end Engine

end FacetedGraph
