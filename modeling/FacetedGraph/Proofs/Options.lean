import FacetedGraph.Proofs.Facet.Offer
import FacetedGraph.Proofs.Facet.Options
import FacetedGraph.Proofs.Identity

/-!
# Options over a healthy store

The options of a selection are the values that its scope shows, no more and no less.

## Main definitions

* `Graph.optionsOf` — the options of a selection.
* `Graph.settledOptions` — what is left of them where facets fail.

## Main statements

* `Graph.Sound.mem_texts_optionsOf`, `Graph.Sound.entities_optionsOf_perm` — the entries of a facet.
* `Engine.run_options`, `Engine.options_prompt` — what the call gives, whatever the store does.
* `Engine.options_ok`, `Engine.options_observable` — from a healthy store it gives these options.
-/

namespace FacetedGraph

namespace Graph

variable (g : Graph) (f : Filter)

noncomputable def textsFor (g : Graph) (f : Filter) (source : FacetSource) : List String :=
  ascending ((optionTexts (g.storedFor f source)).filter (· ≠ ""))

noncomputable def choicesFor (g : Graph) (f : Filter) (source : FacetSource) : List EntityChoice :=
  distinct ((((g.entitiesFor f source).mergeSort namedBefore).map FacetOptions.choiceOf).mergeSort
    EntityChoice.before)

/-- The options of a selection. -/
noncomputable def optionsOf (g : Graph) (f : Filter) : FacetOptions :=
  .complete (fun facet => g.textsFor f facet.source) fun facet => g.choicesFor f facet.source

section Rows

variable {facet : Facet}

theorem textsOfRows_offered (hfacet : facet.offersEntities = false) :
    FacetOptions.textsOfRows (g.offered f facet.source) = .ok (g.textsFor f facet.source) := by
  cases hsource : facet.source with
  | property d => exact FacetOptions.textsOfRows_ok _
  | rating key => exact FacetOptions.textsOfRows_ok _
  | entity kind => simp [Facet.offersEntities, hsource] at hfacet

theorem entitiesOfRows_offered (hfacet : facet.offersEntities = true) :
    FacetOptions.entitiesOfRows (g.offered f facet.source) =
      .ok (g.choicesFor f facet.source) := by
  cases hsource : facet.source with
  | entity kind => exact FacetOptions.entitiesOfRows_ok _
  | _ => simp [Facet.offersEntities, hsource] at hfacet

end Rows

/-! ## Facets that fail -/

/-- The options of a selection where some facets failed. -/
noncomputable def settledOptions (g : Graph) (f : Filter) (failure : Facet → Option Error) :
    FacetOptions :=
  .settling .start failure Facet.all (fun facet => g.textsFor f facet.source)
    fun facet => g.choicesFor f facet.source

theorem settledOptions_none : g.settledOptions f (fun _ => none) = g.optionsOf f :=
  FacetOptions.settling_complete _ _

theorem resolve_offered (failure : Facet → Option Error) :
    FacetOptions.resolve (Facet.all.map fun facet =>
      (facet, (failure facet).elim (.ok (g.offered f facet.source)) .error)) =
      (FacetOptions.firstOutage failure Facet.all).elim (.ok (g.settledOptions f failure)) .error :=
  FacetOptions.resolve_eq (fun _ => g.textsOfRows_offered f) (fun _ => g.entitiesOfRows_offered f)
    failure

/-! ## Entries -/

section Entries

variable {g f} {facet : Facet}

/-- The texts of a facet by way of its rows, as a store gives them. -/
theorem values?_of_offer {texts : List String}
    (hfacet : facet.offersEntities = false)
    (h : (g.offer (f.nodeScoped.compiled "n" "r") facet.source >>= FacetOptions.textsOfRows) =
      .ok texts) :
    (g.optionsOf f).values? facet = some texts := by
  rw [offer_compiled] at h
  have htexts : g.textsFor f facet.source = texts :=
    Except.ok.inj ((g.textsOfRows_offered f hfacet).symm.trans h)
  rw [FacetOptions.values?_eq_some, optionsOf, FacetOptions.texts_complete, htexts]
  exact ⟨hfacet, if_neg (by simp [hfacet])⟩

theorem entities?_of_offer {choices : List EntityChoice} (hfacet : facet.offersEntities = true)
    (h : (g.offer (f.nodeScoped.compiled "n" "r") facet.source >>= FacetOptions.entitiesOfRows) =
      .ok choices) :
    (g.optionsOf f).entities? facet = some choices := by
  rw [offer_compiled] at h
  have hchoices : g.choicesFor f facet.source = choices :=
    Except.ok.inj ((g.entitiesOfRows_offered f hfacet).symm.trans h)
  rw [FacetOptions.entities?_eq_some, optionsOf, FacetOptions.entities_complete, hchoices]
  exact ⟨hfacet, if_pos hfacet⟩

theorem pairwise_texts_optionsOf : ((g.optionsOf f).texts facet).Pairwise (· < ·) := by
  rw [optionsOf, FacetOptions.texts_complete]
  split
  · exact .nil
  · exact FacetOptions.pairwise_ascending _

theorem pairwise_entities_optionsOf :
    ((g.optionsOf f).entities facet).Pairwise fun a b => a.rank < b.rank := by
  rw [optionsOf, FacetOptions.entities_complete]
  split
  · exact FacetOptions.pairwise_distinct_mergeSort
  · exact .nil

theorem mem_entities_optionsOf {c : EntityChoice} :
    c ∈ (g.optionsOf f).entities facet ↔
      ∃ n ∈ g.entitiesFor f facet.source, FacetOptions.choiceOf n = c := by
  rw [optionsOf, FacetOptions.entities_complete]
  cases hsource : facet.source with
  | entity kind => simp [Facet.offersEntities, hsource, choicesFor]
  | _ => simp [Facet.offersEntities, hsource, entitiesFor]

variable (h : g.Sound)

include h

theorem Sound.mem_texts_optionsOf {text : String} :
    text ∈ (g.optionsOf f).texts facet ↔
      text ≠ "" ∧ ∃ v, g.Reveals f facet.source v ∧ v.Shows text := by
  have hentries {source : FacetSource} : text ∈ g.textsFor f source ↔
      text ≠ "" ∧ ∃ v, g.Reveals f source v ∧ v.Shows text := by
    simp only [textsFor, mem_ascending, List.mem_filter, mem_optionTexts, h.mem_storedFor,
      decide_eq_true_eq]
    tauto
  rw [optionsOf, FacetOptions.texts_complete]
  cases hsource : facet.source with
  | entity kind => simp [Facet.offersEntities, hsource, Reveals]
  | _ => simp [Facet.offersEntities, hsource, hentries]

/-- Different nodes are offered as different entities. -/
theorem Sound.entities_optionsOf_perm {kind : EntityKind} (hfacet : facet.source = .entity kind) :
    ((g.optionsOf f).entities facet).Perm
      ((g.entitiesFor f (.entity kind)).map FacetOptions.choiceOf) := by
  have hentities : facet.offersEntities = true := by rw [Facet.offersEntities, hfacet]
  rw [optionsOf, FacetOptions.entities_complete, if_pos hentities, hfacet]
  have hperm : (((g.entitiesFor f (.entity kind)).mergeSort namedBefore).map
      FacetOptions.choiceOf).Perm ((g.entitiesFor f (.entity kind)).map FacetOptions.choiceOf) :=
    (List.mergeSort_perm _ _).map _
  have hnodup : ((g.entitiesFor f (.entity kind)).map FacetOptions.choiceOf).Nodup := by
    have hids : (((g.entitiesFor f (.entity kind)).map NodeOf.id).map NodeId.text).Nodup :=
      (h.nodup_entitiesFor kind).map fun _ _ => NodeId.text_injective
    refine .of_map EntityChoice.id ?_
    rw [List.map_map] at hids ⊢
    exact hids
  exact (FacetOptions.distinct_mergeSort_perm (hperm.nodup_iff.2 hnodup)).trans hperm

end Entries

end Graph

/-! ## Calls -/

namespace Engine

variable {s : MemoryStore}

theorem check_options (facet : Facet) {conditions : Conditions} (h : conditions.relation = []) :
    ({ pattern := .options facet, conditions } : Plan).check = .ok () :=
  Plan.check_ok rfl (.inl h) (.inr rfl)

theorem facetQueries_ok (f : Filter) :
    ∃ query : Facet → Query,
      facetQueries f = .ok (Facet.all.map fun facet => (facet, query facet)) ∧
      ∀ facet, (query facet).plan =
        { pattern := .options facet, conditions := f.nodeScoped.compiled "n" "r" } := by
  let plan (facet : Facet) : Plan :=
    { pattern := .options facet, conditions := f.nodeScoped.compiled "n" "r" }
  have hrelation : (f.nodeScoped.compiled "n" "r").relation = [] :=
    congrArg (List.map Prod.fst) ((f.nodeScoped.relationFragments_eq_nil "r").2 rfl)
  have hquery (facet : Facet) : (plan facet).query =
      .ok ⟨(plan facet).text, (plan facet).parameters, plan facet⟩ :=
    Plan.query_ok (check_options facet hrelation)
  refine ⟨fun facet => ⟨(plan facet).text, (plan facet).parameters, plan facet⟩, ?_, fun _ => rfl⟩
  rw [facetQueries, f.nodeScoped.conditions_none "n" "r" rfl]
  exact mapM_ok fun facet _ => by rw [hquery]; rfl

/-- Whatever state the store is in, options come of what each query gives there. -/
theorem run_options (s : MemoryStore) (e : Engine) {f : Filter} {query : Facet → Query}
    (hqueries : facetQueries f = .ok (Facet.all.map fun facet => (facet, query facet))) :
    (e.options f).run s =
      ((s.obstacle? e.timeout).elim
        (FacetOptions.resolve (Facet.all.map fun facet => (facet, s.run (query facet)))) .error,
        s) := by
  have hreachable := s.run_checkReachable e.timeout
  cases hobstacle : s.obstacle? e.timeout with
  | some err =>
    rw [hobstacle] at hreachable
    rw [options, Call.run_bind, hreachable]
    rfl
  | none =>
    rw [hobstacle] at hreachable
    have houtcome (facet : Facet) : (do
        return (facet, ← ExceptT.lift (Store.execute e.timeout (query facet)).run) :
          Call MemoryStore (Facet × Except Error (List Row))).run s =
        (.ok (facet, s.run (query facet)), s) := by
      have hexecute : (Store.execute e.timeout (query facet)).run s =
          (s.run (query facet), s) := by
        rw [s.run_execute, hobstacle]
        rfl
      rw [Call.run_bind_ok (Call.run_lift hexecute)]
      rfl
    rw [options, Call.run_bind_ok hreachable, hqueries, Call.run_bind_ok (Call.run_ofExcept _ s),
      List.mapM_map]
    refine (Call.run_bind_ok (Call.run_mapM_ok fun facet _ => houtcome facet) _).trans ?_
    rw [Call.run_ofExcept]
    rfl

/-- On a store that is online and prompt, facets fail by its fault alone. -/
theorem options_prompt (hs : s.Prompt) (e : Engine) (f : Filter) :
    ∃ query : Facet → Query,
      facetQueries f = .ok (Facet.all.map fun facet => (facet, query facet)) ∧
      (∀ facet, (query facet).plan.pattern = .options facet) ∧
      (e.options f).run s =
        ((FacetOptions.firstOutage (fun facet => s.failure? (query facet)) Facet.all).elim
          (.ok (s.graph.settledOptions f fun facet => s.failure? (query facet))) .error, s) := by
  obtain ⟨query, hqueries, hplan⟩ := facetQueries_ok f
  refine ⟨query, hqueries, fun facet => congrArg Plan.pattern (hplan facet), ?_⟩
  have houtcome (facet : Facet) : s.run (query facet) =
      (s.failure? (query facet)).elim (.ok (s.graph.offered f facet.source)) .error := by
    rw [hs.run, hplan]
    exact congrArg (Option.elim _ · _) (s.graph.offer_compiled f "n" "r" facet.source)
  rw [run_options s e hqueries, hs.obstacle?_eq_none]
  simp only [houtcome, Option.elim_none]
  exact congrArg (·, s) (s.graph.resolve_offered f _)

theorem options_ok (hs : s.Healthy) (e : Engine) (f : Filter) :
    (e.options f).run s = (.ok (s.graph.optionsOf f), s) := by
  obtain ⟨query, -, -, hrun⟩ := options_prompt hs.prompt e f
  have hfailure : (fun facet => s.failure? (query facet)) = fun _ => none := by
    simp [MemoryStore.failure?, hs.fault]
  rw [hrun, hfailure, s.graph.settledOptions_none]
  rfl

theorem optionsOf_of_run (hs : s.Healthy) {e : Engine} {f : Filter} {o : FacetOptions}
    (h : (e.options f).run s = (.ok o, s)) : o = s.graph.optionsOf f :=
  Except.ok.inj (congrArg Prod.fst (h.symm.trans (options_ok hs e f)))

/-- The options of a selection are exactly what can be seen from it: each text facet has the texts
of what is stored where it looks, each entity facet has an entry for each node of its kind in the
scope, and nothing is degraded. -/
theorem options_observable (hs : s.Healthy) (hb : s.graph.Built) (e : Engine) (selection : Filter) :
    ∃ o : FacetOptions, (e.options selection).run s = (.ok o, s) ∧
      o.regions = ["NAI", "EMEA", "APAC"] ∧ o.degraded = [] ∧
      (∀ facet : Facet, facet.offersEntities = false →
        ∃ texts, o.values? facet = some texts ∧ texts.Pairwise (· < ·) ∧
          ∀ text, text ∈ texts ↔
            text ≠ "" ∧ ∃ v, s.graph.Reveals selection facet.source v ∧ v.Shows text) ∧
      ∀ (facet : Facet) (kind : EntityKind), facet.source = .entity kind →
        ∃ (choices : List EntityChoice) (nodes : List Node),
          o.entities? facet = some choices ∧
          choices.Pairwise (fun a b => a.name < b.name ∨ a.name = b.name ∧ a.id < b.id) ∧
          choices.Perm (nodes.map fun n =>
            ⟨n.id.text, ((n.get? "name").bind Value.queryString).getD n.id.text⟩) ∧
          (nodes.map NodeOf.id).Nodup ∧
          ∀ n, n ∈ nodes ↔
            n ∈ s.graph.nodes ∧ s.graph.InScope selection n ∧ kind.label ∈ n.labels := by
  have hsound := hb.sound
  refine ⟨s.graph.optionsOf selection, options_ok hs e selection, rfl, rfl, ?_, ?_⟩
  · intro facet hfacet
    exact ⟨(s.graph.optionsOf selection).texts facet,
      FacetOptions.values?_eq_some.2 ⟨hfacet, rfl⟩, Graph.pairwise_texts_optionsOf,
      fun text => hsound.mem_texts_optionsOf⟩
  · intro facet kind hfacet
    have hentities : facet.offersEntities = true := by rw [Facet.offersEntities, hfacet]
    refine ⟨(s.graph.optionsOf selection).entities facet,
      s.graph.entitiesFor selection (.entity kind),
      FacetOptions.entities?_eq_some.2 ⟨hentities, rfl⟩, ?_,
      hsound.entities_optionsOf_perm hfacet, hsound.nodup_entitiesFor kind,
      fun n => hsound.mem_entitiesFor⟩
    exact Graph.pairwise_entities_optionsOf.imp fun hlt => Prod.Lex.toLex_lt_toLex.1 hlt

/-- What is left around the nodes of Europe in the sample: the company that is there, and the
products that it rates. -/
theorem options_sample :
    MemoryStore.sample.Healthy ∧ MemoryStore.sample.graph.Built ∧
      ∃ o : FacetOptions,
        (options {} { regions := ["EU"] }).run MemoryStore.sample = (.ok o, MemoryStore.sample) ∧
        o.regions = ["NAI", "EMEA", "APAC"] ∧ o.degraded = [] ∧
        o.values? .assetClasses = some ["Bond", "Equity"] ∧
        o.values? .rankValues = some ["3.5", "4"] ∧ o.values? .channels = some [] := by
  refine ⟨MemoryStore.healthy_sample, MemoryStore.built_sample, ?_⟩
  obtain ⟨o, hrun, hregions, hdegraded, -, -⟩ := options_observable MemoryStore.healthy_sample
    MemoryStore.built_sample {} { regions := ["EU"] }
  refine ⟨o, hrun, hregions, hdegraded, ?_⟩
  rw [optionsOf_of_run MemoryStore.healthy_sample hrun]
  refine ⟨Graph.values?_of_offer rfl ?_, Graph.values?_of_offer rfl ?_,
    Graph.values?_of_offer rfl ?_⟩
  all_goals decide +kernel

end Engine

end FacetedGraph
