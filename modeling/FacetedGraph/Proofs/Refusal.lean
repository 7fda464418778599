import FacetedGraph.Proofs.Calls

/-!
# Refusals in every state of a store

Parameters are checked before a store is asked anything. So a call is refused for its parameters
or not, and with the same error, whatever state the store is in: only a store that is made to
answer with errors of this kind can add to the refusals.

## Main definitions

* `BlamesParameter` — an outcome is an error about a parameter.
* `MemoryStore.hindrance?` — what a store puts in the way of a plan.
* `MemoryStore.Injects` — a store is made to answer a plan with an error about a parameter.

## Main statements

* `MemoryStore.run_plan` — a plan is evaluated unless the store is in the way.
* `Engine.run_settled` — a traversal has its answer on a healthy store unless the store is in the
  way.
* `Engine.refused_whatever_store` — when traversals are refused.
-/

namespace FacetedGraph

def BlamesParameter {α : Type} (outcome : Except Error α) : Prop :=
  ∃ fault, outcome = .error (.invalidParameter fault)

/-! ## Stores that are in the way -/

namespace MemoryStore

variable {s : MemoryStore} {plan : Plan}

/-- What the store puts in the way of a plan: it cannot be reached in time, or it is made to fail
the plan. -/
def hindrance? (s : MemoryStore) (timeout : Option Nat) (plan : Plan) : Option Error :=
  (s.obstacle? timeout).or (s.fault.bind fun fault => fault plan)

/-- The store is reached, and made to answer the plan with an error about a parameter. -/
def Injects (s : MemoryStore) (timeout : Option Nat) (plan : Plan) : Prop :=
  s.obstacle? timeout = none ∧
    ∃ hook fault, s.fault = some hook ∧ hook plan = some (.invalidParameter fault)

theorem obstacle?_ne_invalidParameter (s : MemoryStore) (timeout : Option Nat)
    (fault : ParameterFault) : s.obstacle? timeout ≠ some (.invalidParameter fault) := by
  unfold obstacle?
  split
  · simp
  · simp

theorem injects_iff {timeout : Option Nat} :
    s.Injects timeout plan ↔
      ∃ fault, s.hindrance? timeout plan = some (.invalidParameter fault) := by
  unfold Injects hindrance?
  cases hobstacle : s.obstacle? timeout with
  | none => simp [Option.bind_eq_some_iff, exists_comm]
  | some e =>
    have hne := s.obstacle?_ne_invalidParameter timeout
    simp_all

theorem available_of_obstacle? {timeout : Option Nat} (h : s.obstacle? timeout = none) :
    s.available = true := by
  unfold obstacle? at h
  split at h
  case isTrue havailable => exact havailable
  case isFalse => cases h

theorem healthy_clearFaults (s : MemoryStore) : s.clearFaults.Healthy := ⟨rfl, rfl, rfl⟩

/-- A plan that is not refused is evaluated, unless the store is in the way. -/
theorem run_plan (s : MemoryStore) (e : Engine) (h : plan.check = .ok ()) :
    (e.run plan).run s =
      ((s.hindrance? e.timeout plan).elim (s.graph.evaluate plan) .error, s) := by
  rw [Engine.run, Plan.query_ok h, Call.run_bind_ok (Call.run_ofExcept _ s), run_execute,
    hindrance?]
  cases hobstacle : s.obstacle? e.timeout with
  | some err => rfl
  | none =>
    have hping : s.ping = .ok () := if_pos (available_of_obstacle? hobstacle)
    simp only [MemoryStore.run, hping, Option.elim_none, Option.none_or]
    cases s.fault.bind fun fault => fault plan <;> rfl

end MemoryStore

/-! ## Traversals in every state -/

namespace Engine

variable {α : Type} {e : Engine} {s : MemoryStore} {plan : Plan} {a : α}

/-- What a traversal makes of the rows of its plan does not take the store any more. So it has
the answer that it has on the store without faults, unless the store is in the way. -/
theorem run_settled {k : List Row → Call MemoryStore α} {read : List Row → Except Error α}
    (hk : ∀ rows t, (k rows).run t = (read rows, t)) (hcheck : plan.check = .ok ())
    (hhealthy : (e.run plan >>= k).run s.clearFaults = (.ok a, s.clearFaults)) :
    (e.run plan >>= k).run s = ((s.hindrance? e.timeout plan).elim (.ok a) .error, s) := by
  have hrun := s.run_plan e hcheck
  have hclear : (e.run plan).run s.clearFaults = (s.graph.evaluate plan, s.clearFaults) :=
    s.healthy_clearFaults.run_plan e hcheck
  cases hhindrance : s.hindrance? e.timeout plan with
  | some err =>
    rw [hhindrance] at hrun
    exact Call.run_bind_error hrun k
  | none =>
    rw [hhindrance] at hrun
    cases hrows : s.graph.evaluate plan with
    | error err =>
      rw [hrows] at hclear
      rw [Call.run_bind_error hclear] at hhealthy
      cases hhealthy
    | ok rows =>
      rw [hrows] at hrun hclear
      rw [Call.run_bind_ok hclear, hk] at hhealthy
      obtain ⟨hread, -⟩ := Prod.mk.inj hhealthy
      rw [Call.run_bind_ok hrun, hk, hread]
      rfl

theorem blames_iff_injects {x : Call MemoryStore α}
    (hx : x.run s = ((s.hindrance? e.timeout plan).elim (.ok a) .error, s)) :
    BlamesParameter (x.run s).1 ↔ s.Injects e.timeout plan := by
  rw [hx, MemoryStore.injects_iff, BlamesParameter]
  cases s.hindrance? e.timeout plan <;> simp

/-- A call with a fault is refused for it, and the others can only blame what is injected. -/
theorem blames_iff {x : Call MemoryStore α} {fault? : Option ParameterFault} {good injected : Prop}
    (hgood : fault? = none ↔ good)
    (hrefused : ∀ fault, fault? = some fault → x.run s = (.error (.invalidParameter fault), s))
    (hsettled : good → (BlamesParameter (x.run s).1 ↔ injected)) :
    BlamesParameter (x.run s).1 ↔ ¬ good ∨ injected := by
  cases hfault : fault? with
  | some fault =>
    have hbad : ¬ good := fun h => by cases hfault.symm.trans (hgood.2 h)
    rw [hrefused fault hfault]
    exact iff_of_true ⟨fault, rfl⟩ (.inl hbad)
  | none =>
    have h := hgood.1 hfault
    rw [hsettled h]
    exact (or_iff_right (not_not.2 h)).symm

/-! ### The traversals -/

section Settled

variable (e : Engine) (s : MemoryStore)

theorem expand_settled {seeds : List NodeId} {depth : Nat} (hseeds : seeds ≠ [])
    (hdepth : 1 ≤ depth ∧ depth ≤ maxExpansionDepth) (page : Page) :
    ∃ result, (e.expand seeds depth page).run s =
      ((s.hindrance? e.timeout { pattern := .expansion seeds depth, page }).elim (.ok result)
        .error, s) := by
  have hvalidate : (Pattern.expansion seeds depth).validate = .ok () := if_pos hdepth
  have hsome : ¬ seeds.isEmpty := by rwa [List.isEmpty_iff]
  have hok := expand_ok s.healthy_clearFaults e hseeds hdepth page
  unfold expand at hok ⊢
  rw [if_neg hsome] at hok ⊢
  have hread (rows : List Row) (t : MemoryStore) :
      (pure (Subgraph.ofRows rows) : Call MemoryStore Subgraph).run t =
        (.ok (Subgraph.ofRows rows), t) := rfl
  exact ⟨_, run_settled hread (Plan.check_unfiltered hvalidate page) hok⟩

theorem recommend_settled (seed : NodeId) (recommender : Recommender) {limit : Option Nat}
    {n : Nat} (hlimit : limit.getD defaultRecommendationLimit = n)
    (hrange : 1 ≤ n ∧ n ≤ maxRecommendationLimit) :
    ∃ candidates, (e.recommend seed recommender limit).run s =
      ((s.hindrance? e.timeout { pattern := .recommendation seed recommender n }).elim
        (.ok candidates) .error, s) := by
  have hvalidate : (Pattern.recommendation seed recommender n).validate = .ok () := if_pos hrange
  have hok := recommend_ok s.healthy_clearFaults e seed recommender hlimit hrange
  unfold recommend at hok ⊢
  rw [hlimit] at hok ⊢
  have hread (rows : List Row) (t : MemoryStore) :
      (MonadExcept.ofExcept (RankedNode.ofRows rows) : Call MemoryStore _).run t =
        (RankedNode.ofRows rows, t) := Call.run_ofExcept _ t
  exact ⟨_, run_settled hread (Plan.check_unfiltered hvalidate .default) hok⟩

/-- What is made of the rows of an influence network. -/
def influenceOfRows (rows : List Row) : Except Error InfluenceResult := do
  return { graph := Subgraph.ofRows rows, reach := Fields.ofList (← rows.mapM reachOfRow) }

theorem influence_settled {consultants : List NodeId} (hconsultants : consultants ≠ []) :
    ∃ network, (e.influence consultants).run s =
      ((s.hindrance? e.timeout { pattern := .influence consultants }).elim (.ok network) .error,
        s) := by
  have hsome : ¬ consultants.isEmpty := by rwa [List.isEmpty_iff]
  obtain ⟨_, hok⟩ := influence_ok s.healthy_clearFaults e hconsultants
  unfold influence at hok ⊢
  rw [if_neg hsome] at hok ⊢
  have hread := run_settled (?_ : ∀ rows t, _ = (influenceOfRows rows, t))
    (Plan.check_unfiltered rfl .default) hok
  · exact ⟨_, hread⟩
  · intro rows t
    unfold influenceOfRows
    cases rows.mapM reachOfRow <;> rfl

/-- There is nothing to search where no source is given or every target is a source. -/
theorem isEmpty_apart_iff {sources targets : List NodeId} :
    ((distinct sources).isEmpty || (apart sources targets).isEmpty) = true ↔
      sources = [] ∨ ∀ t ∈ targets, t ∈ sources := by
  have hsources : distinct sources = [] ↔ sources = [] := by
    simp only [List.eq_nil_iff_forall_not_mem, mem_distinct]
  have htargets : apart sources targets = [] ↔ ∀ t ∈ targets, t ∈ sources := by
    simp only [List.eq_nil_iff_forall_not_mem, mem_apart, not_and, not_not]
  rw [Bool.or_eq_true, List.isEmpty_iff, List.isEmpty_iff, hsources, htargets]

/-- Where there is nothing to search no store is asked anything. -/
theorem paths_unsearched {σ : Type} [Store σ] {sources targets : List NodeId} {maxDepth : Nat}
    (hdepth : 1 ≤ maxDepth ∧ maxDepth ≤ maxPathDepth)
    (hnothing : sources = [] ∨ ∀ t ∈ targets, t ∈ sources) (t : σ) :
    (e.paths sources targets maxDepth).run t = (.ok {}, t) := by
  rw [paths_eq, validate_paths sources targets hdepth, Call.run_bind_ok (Call.run_ofExcept _ t),
    if_pos (isEmpty_apart_iff.2 hnothing)]
  rfl

/-- The plan of a path search. -/
def searchPlan (sources targets : List NodeId) (maxDepth : Nat) : Plan where
  pattern := .paths (distinct sources) (apart sources targets) maxDepth

/-- What is made of the rows of a path search. -/
def pathsOfRows (rows : List Row) : Except Error PathsResult := do
  return { paths := ← rows.mapM pathOfRow, graph := Subgraph.ofRows rows }

theorem paths_settled {sources targets : List NodeId} {maxDepth : Nat}
    (hdepth : 1 ≤ maxDepth ∧ maxDepth ≤ maxPathDepth)
    (hsearch : ¬ (sources = [] ∨ ∀ t ∈ targets, t ∈ sources)) :
    ∃ result, (e.paths sources targets maxDepth).run s =
      ((s.hindrance? e.timeout (searchPlan sources targets maxDepth)).elim (.ok result) .error,
        s) := by
  have hvalidate := validate_paths sources targets hdepth
  have hok := paths_ok s.healthy_clearFaults e sources targets hdepth
  rw [paths_eq, hvalidate, Call.run_bind_ok (Call.run_ofExcept _ _),
    if_neg (isEmpty_apart_iff.not.2 hsearch)] at hok ⊢
  have hread := run_settled (?_ : ∀ rows t, _ = (pathsOfRows rows, t))
    (Plan.check_unfiltered hvalidate .default) hok
  · exact ⟨_, hread⟩
  · intro rows t
    unfold pathsOfRows
    cases rows.mapM pathOfRow <;> rfl

end Settled

/-! ### Refusals -/

section Refusals

variable (e : Engine) (s : MemoryStore)

theorem expand_blames_iff (seeds : List NodeId) (depth : Nat) (page : Page) :
    BlamesParameter ((e.expand seeds depth page).run s).1 ↔
      ¬ (seeds ≠ [] ∧ 1 ≤ depth ∧ depth ≤ maxExpansionDepth) ∨
        s.Injects e.timeout { pattern := .expansion seeds depth, page } := by
  have hfault (fault : ParameterFault)
      (h : (EngineCall.expand seeds depth page).fault? = some fault) :
      (e.expand seeds depth page).run s = (.error (.invalidParameter fault), s) :=
    expand_refused e h s
  refine blames_iff EngineCall.fault?_expand_eq_none hfault fun ⟨hseeds, hdepth⟩ => ?_
  obtain ⟨_, hrun⟩ := expand_settled e s hseeds hdepth page
  exact blames_iff_injects hrun

theorem paths_blames_iff (sources targets : List NodeId) (maxDepth : Nat) :
    BlamesParameter ((e.paths sources targets maxDepth).run s).1 ↔
      ¬ (1 ≤ maxDepth ∧ maxDepth ≤ maxPathDepth) ∨
        ¬ (sources = [] ∨ ∀ t ∈ targets, t ∈ sources) ∧
          s.Injects e.timeout (searchPlan sources targets maxDepth) := by
  refine blames_iff outOfRange?_eq_none (fun _ h => paths_refused e h s) fun hdepth => ?_
  by_cases hnothing : sources = [] ∨ ∀ t ∈ targets, t ∈ sources
  · rw [paths_unsearched e hdepth hnothing]
    exact iff_of_false (fun ⟨_, h⟩ => by cases h) fun h => h.1 hnothing
  · obtain ⟨_, hrun⟩ := paths_settled e s hdepth hnothing
    rw [blames_iff_injects hrun, and_iff_right hnothing]

theorem recommend_blames_iff (seed : NodeId) (recommender : Recommender) {limit : Option Nat}
    {n : Nat} (hlimit : limit.getD defaultRecommendationLimit = n) :
    BlamesParameter ((e.recommend seed recommender limit).run s).1 ↔
      ¬ (1 ≤ n ∧ n ≤ maxRecommendationLimit) ∨
        s.Injects e.timeout { pattern := .recommendation seed recommender n } := by
  subst hlimit
  have hfault (fault : ParameterFault)
      (h : (EngineCall.recommend seed recommender limit).fault? = some fault) :
      (e.recommend seed recommender limit).run s = (.error (.invalidParameter fault), s) :=
    recommend_refused e h s
  refine blames_iff outOfRange?_eq_none hfault fun hrange => ?_
  obtain ⟨_, hrun⟩ := recommend_settled e s seed recommender rfl hrange
  exact blames_iff_injects hrun

theorem influence_blames_iff (consultants : List NodeId) :
    BlamesParameter ((e.influence consultants).run s).1 ↔
      ¬ consultants ≠ [] ∨ s.Injects e.timeout { pattern := .influence consultants } := by
  refine blames_iff EngineCall.fault?_influence_eq_none (fun _ h => influence_refused e h s)
    fun hconsultants => ?_
  obtain ⟨_, hrun⟩ := influence_settled e s hconsultants
  exact blames_iff_injects hrun

end Refusals

/-- An expansion is refused for its parameters exactly if there is no seed or its depth is not
within `1..=5`, a path search if its depth is not within `1..=6`, recommendations if the limit is
not within `1..=50`, and an influence network if there is no consultant. That is so in every state
of a store, unless it is made to answer the plan with an error about a parameter. What is wrong is
told in the same words by every store of whatever kind, and where a path search of a good depth has
nothing to search they all have the empty result. -/
theorem refused_whatever_store (e : Engine) (s : MemoryStore) :
    (∀ seeds depth page, BlamesParameter ((e.expand seeds depth page).run s).1 ↔
      ¬ (seeds ≠ [] ∧ 1 ≤ depth ∧ depth ≤ 5) ∨
        s.Injects e.timeout { pattern := .expansion seeds depth, page }) ∧
    (∀ sources targets maxDepth,
      BlamesParameter ((e.paths sources targets maxDepth).run s).1 ↔
        ¬ (1 ≤ maxDepth ∧ maxDepth ≤ 6) ∨
          ¬ (sources = [] ∨ ∀ t ∈ targets, t ∈ sources) ∧
            s.Injects e.timeout (searchPlan sources targets maxDepth)) ∧
    (∀ seed recommender limit,
      BlamesParameter ((e.recommend seed recommender limit).run s).1 ↔
        ¬ (1 ≤ limit.getD 10 ∧ limit.getD 10 ≤ 50) ∨
          s.Injects e.timeout { pattern := .recommendation seed recommender (limit.getD 10) }) ∧
    (∀ consultants, BlamesParameter ((e.influence consultants).run s).1 ↔
      consultants = [] ∨ s.Injects e.timeout { pattern := .influence consultants }) ∧
    (∀ c fault, EngineCall.fault? c = some fault → ∀ (σ : Type) [Store σ] (t : σ),
      (e.call c).run t = (.error (.invalidParameter fault), t)) ∧
    ∀ sources targets maxDepth, 1 ≤ maxDepth ∧ maxDepth ≤ 6 →
      (sources = [] ∨ ∀ t ∈ targets, t ∈ sources) → ∀ (σ : Type) [Store σ] (t : σ),
        (e.paths sources targets maxDepth).run t = (.ok {}, t) := by
  refine ⟨expand_blames_iff e s, paths_blames_iff e s,
    fun seed recommender limit => recommend_blames_iff e s seed recommender rfl, ?_, ?_, ?_⟩
  · intro consultants
    rw [influence_blames_iff, not_not]
  · intro c fault hfault σ _ t
    exact call_refused e hfault t
  · intro sources targets maxDepth hdepth hnothing σ _ t
    exact paths_unsearched e hdepth hnothing t

/-- A slow store that is offline and would answer every plan with an error about a parameter. -/
def gone : MemoryStore where
  graph := MemoryStore.sample.graph
  available := false
  latency := some 70000
  fault := some fun _ => some (.invalidParameter .noSeeds)

theorem refused_by_gone :
    EngineCall.fault? (.recommend ⟨0⟩ .similarEntities (some 51)) =
        some (.outOfRange "recommendation limit" 50 51) ∧
      (1 ≤ 3 ∧ 3 ≤ 6) ∧ (∀ t ∈ [(⟨1⟩ : NodeId)], t ∈ [(⟨2⟩ : NodeId), ⟨1⟩]) ∧
      (call {} (.recommend ⟨0⟩ .similarEntities (some 51))).run gone =
        (.error (.invalidParameter (.outOfRange "recommendation limit" 50 51)), gone) ∧
      (paths {} [⟨2⟩, ⟨1⟩] [⟨1⟩] 3).run gone = (.ok {}, gone) ∧
      ¬ BlamesParameter ((expand {} [⟨0⟩] 2 .default).run gone).1 := by
  obtain ⟨hexpand, -, -, -, hrefused, hnothing⟩ := refused_whatever_store {} gone
  have htargets : ∀ t ∈ [(⟨1⟩ : NodeId)], t ∈ [(⟨2⟩ : NodeId), ⟨1⟩] := by decide
  refine ⟨rfl, by decide, htargets, hrefused _ _ rfl _ gone,
    hnothing _ _ 3 (by decide) (.inr htargets) _ gone, ?_⟩
  rw [hexpand]
  rintro (hbad | ⟨hreached, -⟩)
  · exact hbad (by decide)
  · cases hreached

end Engine

end FacetedGraph
