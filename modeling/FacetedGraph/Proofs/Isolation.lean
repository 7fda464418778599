import FacetedGraph.Proofs.Options

/-!
# Facets that fail

A fault of the store reaches the options of a selection facet by facet. A facet that fails is left
empty and noted with the reason, and no other facet is disturbed by it. Only where a facet finds
the store gone are there no options at all.

## Main statements

* `FacetOptions.firstOutage_eq_none`, `FacetOptions.exists_of_firstOutage` — the facet that decides
  whether there are options.
* `Graph.texts_settledOptions`, `Graph.entities_settledOptions` — what a failed facet leaves alone.
* `Engine.options_isolated` — the call, under any fault.
-/

namespace FacetedGraph

theorem Error.isConnectivity_iff {e : Error} :
    e.isConnectivity = true ↔ ∃ cause, e = .storeUnavailable cause := by
  cases e <;> simp [isConnectivity]

/-! ## The first outage -/

namespace FacetOptions

variable {failure : Facet → Option Error}

theorem filter_isConnectivity_eq_some {outcome : Option Error} {e : Error} :
    outcome.filter Error.isConnectivity = some e ↔
      ∃ cause, e = .storeUnavailable cause ∧ outcome = some (.storeUnavailable cause) := by
  rw [Option.filter_eq_some_iff, Error.isConnectivity_iff]
  constructor
  · rintro ⟨houtcome, cause, rfl⟩
    exact ⟨cause, rfl, houtcome⟩
  · rintro ⟨cause, rfl, houtcome⟩
    exact ⟨houtcome, cause, rfl⟩

theorem filter_isConnectivity_eq_none {outcome : Option Error} :
    outcome.filter Error.isConnectivity = none ↔
      ∀ cause, outcome ≠ some (.storeUnavailable cause) := by
  rw [Option.eq_none_iff_forall_ne_some]
  constructor
  · intro h cause houtcome
    exact h _ (filter_isConnectivity_eq_some.2 ⟨cause, rfl, houtcome⟩)
  · intro h e he
    obtain ⟨cause, -, houtcome⟩ := filter_isConnectivity_eq_some.1 he
    exact h cause houtcome

theorem firstOutage_eq_none {facets : List Facet} :
    firstOutage failure facets = none ↔
      ∀ facet ∈ facets, ∀ cause, failure facet ≠ some (.storeUnavailable cause) := by
  simp only [firstOutage, List.findSome?_eq_none_iff, filter_isConnectivity_eq_none]

theorem exists_of_firstOutage {facets : List Facet} {e : Error}
    (h : firstOutage failure facets = some e) :
    ∃ before facet after cause, facets = before ++ facet :: after ∧
      (∀ earlier ∈ before, ∀ cause, failure earlier ≠ some (.storeUnavailable cause)) ∧
      failure facet = some (.storeUnavailable cause) ∧ e = .storeUnavailable cause := by
  obtain ⟨before, facet, after, hfacets, hfacet, hbefore⟩ := List.findSome?_eq_some_iff.1 h
  obtain ⟨cause, he, hfailure⟩ := filter_isConnectivity_eq_some.1 hfacet
  refine ⟨before, facet, after, cause, hfacets, ?_, hfailure, he⟩
  intro earlier hearlier
  exact filter_isConnectivity_eq_none.1 (hbefore earlier hearlier)

end FacetOptions

/-! ## What a failed facet leaves alone -/

namespace Graph

variable {g : Graph} {f : Filter} {failure : Facet → Option Error} {facet : Facet}

theorem texts_settledOptions :
    (g.settledOptions f failure).texts facet =
      if (failure facet).isNone then (g.optionsOf f).texts facet else [] := by
  cases hfailure : failure facet <;>
    simp [settledOptions, optionsOf, FacetOptions.complete, FacetOptions.settling,
      FacetOptions.adding, FacetOptions.start, Facet.mem_all, hfailure]

theorem entities_settledOptions :
    (g.settledOptions f failure).entities facet =
      if (failure facet).isNone then (g.optionsOf f).entities facet else [] := by
  cases hfailure : failure facet <;>
    simp [settledOptions, optionsOf, FacetOptions.complete, FacetOptions.settling,
      FacetOptions.adding, FacetOptions.start, Facet.mem_all, hfailure]

end Graph

/-! ## Calls under a fault -/

namespace MemoryStore

/-- Rules see of a query only what it is about. -/
theorem failure?_failWhen (s : MemoryStore) {rules : List FaultRule} {query : Query}
    {facet : Facet} (h : query.plan.pattern = .options facet) :
    (s.failWhen (FaultRule.errorFor rules)).failure? query =
      FaultRule.errorFor rules { pattern := .options facet } := by
  simp [failWhen, failure?, FaultRule.errorFor, PlanSelector.fits, h]

/-- The sample, where channels cannot be read and consultants come too late. -/
def faulty : MemoryStore :=
  sample.failWhen (FaultRule.errorFor [
    ⟨{ facet := some "channels" }, .storageError "index offline"⟩,
    ⟨{ facet := some "consultants" }, .storeTimeout none⟩])

/-- The sample, where the store is gone once products are asked for. -/
def lost : MemoryStore :=
  sample.failWhen (FaultRule.errorFor [
    ⟨{ facet := some "channels" }, .storageError "index offline"⟩,
    ⟨{ facet := some "products" }, .storeUnavailable .whileConnected⟩])

end MemoryStore

namespace Engine

open MemoryStore (faulty lost)

variable {s : MemoryStore}

/-- Under any fault the first facet that finds the store gone decides the call. Where no facet
does, those that fail are left empty and noted with the reason, and all others have what they have
without the fault. The store is left as it was in either case, with all connections given back. -/
theorem options_isolated (hs : s.Prompt) (e : Engine) (selection : Filter) :
    ∃ query : Facet → Query,
      facetQueries selection = .ok (Facet.all.map fun facet => (facet, query facet)) ∧
      (∀ facet, (query facet).plan.pattern = .options facet) ∧
      ((∃ before facet after cause, Facet.all = before ++ facet :: after ∧
          (∀ earlier ∈ before, ∀ cause,
            s.failure? (query earlier) ≠ some (.storeUnavailable cause)) ∧
          s.failure? (query facet) = some (.storeUnavailable cause) ∧
          (e.options selection).run s = (.error (.storeUnavailable cause), s)) ∨
        ((∀ facet cause, s.failure? (query facet) ≠ some (.storeUnavailable cause)) ∧
          ∃ o whole : FacetOptions, (e.options selection).run s = (.ok o, s) ∧
            (e.options selection).run { s with fault := none } =
              (.ok whole, { s with fault := none }) ∧
            o.regions = ["NAI", "EMEA", "APAC"] ∧
            o.degraded = Facet.all.filterMap (fun facet =>
              (s.failure? (query facet)).map fun err => (facet, err.message)) ∧
            ∀ facet,
              (s.failure? (query facet) ≠ none → o.texts facet = [] ∧ o.entities facet = []) ∧
              (s.failure? (query facet) = none →
                o.texts facet = whole.texts facet ∧ o.entities facet = whole.entities facet))) := by
  obtain ⟨query, hqueries, hpattern, hrun⟩ := options_prompt hs e selection
  refine ⟨query, hqueries, hpattern, ?_⟩
  cases houtage : FacetOptions.firstOutage (fun facet => s.failure? (query facet)) Facet.all with
  | some err =>
    rw [houtage] at hrun
    obtain ⟨before, facet, after, cause, hall, hbefore, hfacet, rfl⟩ :=
      FacetOptions.exists_of_firstOutage houtage
    exact .inl ⟨before, facet, after, cause, hall, hbefore, hfacet, hrun⟩
  | none =>
    rw [houtage] at hrun
    have hhealthy : ({ s with fault := none } : MemoryStore).Healthy :=
      ⟨hs.available, hs.latency, rfl⟩
    refine .inr ⟨fun facet => FacetOptions.firstOutage_eq_none.1 houtage facet facet.mem_all,
      _, _, hrun, options_ok hhealthy e selection, rfl, rfl, ?_⟩
    intro facet
    rw [Graph.texts_settledOptions, Graph.entities_settledOptions]
    constructor
    · intro hfailure
      simp [hfailure]
    · intro hfailure
      simp [hfailure]

theorem options_isolated_faulty :
    faulty.Prompt ∧ lost.Prompt ∧
      (∃ o : FacetOptions, (options {} {}).run faulty = (.ok o, faulty) ∧
        o.degraded = [(.channels, "Storage error: index offline"),
          (.consultants, "Graph store timed out")] ∧
        o.texts .channels = [] ∧ o.texts .assetClasses = ["Bond", "Equity"]) ∧
      (options {} {}).run lost = (.error (.storeUnavailable .whileConnected), lost) := by
  have hfaulty : faulty.Prompt := ⟨rfl, rfl⟩
  have hlost : lost.Prompt := ⟨rfl, rfl⟩
  refine ⟨hfaulty, hlost, ?_, ?_⟩
  · obtain ⟨query, -, hpattern, h⟩ := options_isolated hfaulty {} {}
    have hfailure (facet : Facet) : faulty.failure? (query facet) =
        if facet = .channels then some (.storageError "index offline")
        else if facet = .consultants then some (.storeTimeout none) else none := by
      rw [faulty, MemoryStore.failure?_failWhen _ (hpattern facet)]
      cases facet <;> rfl
    simp only [hfailure] at h
    rcases h with ⟨_, facet, _, cause, -, -, hfacet, -⟩ |
      ⟨-, o, whole, hrun, hwhole, -, hdegraded, h⟩
    · cases facet <;> simp at hfacet
    · have hassets : (MemoryStore.sample.graph.optionsOf {}).values? .assetClasses =
          some ["Bond", "Equity"] := Graph.values?_of_offer rfl (by decide +kernel)
      rw [optionsOf_of_run MemoryStore.healthy_sample hwhole] at h
      refine ⟨o, hrun, hdegraded, ((h .channels).1 (by decide)).1, ?_⟩
      rw [((h .assetClasses).2 rfl).1]
      exact (FacetOptions.values?_eq_some.1 hassets).2
  · obtain ⟨query, -, hpattern, h⟩ := options_isolated hlost {} {}
    have hfailure (facet : Facet) : lost.failure? (query facet) =
        if facet = .channels then some (.storageError "index offline")
        else if facet = .products then some (.storeUnavailable .whileConnected) else none := by
      rw [lost, MemoryStore.failure?_failWhen _ (hpattern facet)]
      cases facet <;> rfl
    simp only [hfailure] at h
    rcases h with ⟨_, facet, _, cause, -, -, hfacet, hrun⟩ | ⟨hnone, -⟩
    · cases facet <;> cases hfacet
      exact hrun
    · exact absurd rfl (hnone .products .whileConnected)

end Engine

end FacetedGraph
