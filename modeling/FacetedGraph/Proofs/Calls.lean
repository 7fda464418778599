import FacetedGraph.Client
import FacetedGraph.Proofs.Expansion
import FacetedGraph.Proofs.Graph.Network
import FacetedGraph.Proofs.Paths
import FacetedGraph.Proofs.Selection

/-!
# Calls of the engine

A call with bad parameters is refused before it goes to any store. Every other call succeeds on a
healthy store: the conditions that a filter is compiled to bind what they mention and stand where
they can be evaluated, and the rows of a pattern have the columns that are read from them.

## Main definitions

* `Graph.ranked`, `Graph.consultants`, `Graph.reaches` — what recommendations and influence networks
  are about.
* `EngineCall.fault?` — what is wrong with the parameters of a call.

## Main statements

* `Engine.recommend_ok`, `Engine.influence_ok`, `Engine.detail_ok` — rows read back.
* `Engine.call_refused`, `Engine.call_answered` — calls with bad and with good parameters.
* `Engine.call_settled` — there is no third way.
-/

namespace FacetedGraph

/-! ## Candidates, networks and details -/

/-- A candidate as callers see it. -/
def Candidate.view (c : Candidate) : RankedNode where
  node := .ofNode c.node
  score := .ofMagnitude c.score

theorem RankedNode.ofRow_candidateRow (c : Candidate) :
    RankedNode.ofRow (Graph.candidateRow c) = .ok c.view := rfl

theorem RankedNode.ofRows_candidateRows (candidates : List Candidate) :
    RankedNode.ofRows (candidates.map Graph.candidateRow) =
      .ok (candidates.map Candidate.view) := by
  rw [RankedNode.ofRows, List.mapM_map]
  exact mapM_ok fun c _ => RankedNode.ofRow_candidateRow c

namespace Graph

/-- The best candidates for a seed. -/
def ranked (g : Graph) (seed : NodeId) (recommender : Recommender) (limit : Nat) :
    List Candidate :=
  match g.node? seed with
  | none => []
  | some n => ((g.candidates n recommender).mergeSort ranksBefore).take limit

theorem recommend_eq (g : Graph) (seed : NodeId) (recommender : Recommender) (limit : Nat) :
    g.recommend seed recommender limit = (g.ranked seed recommender limit).map candidateRow := by
  unfold recommend ranked
  cases g.node? seed <;> rfl

/-- The listed nodes that are consultants, in ascending order. -/
def consultants (g : Graph) (listed : List NodeId) : List Node :=
  ((ascendingBy NodeId.number listed).filterMap g.node?).filter (·.hasLabel "CONSULTANT")

/-- The reach of a consultant, counted over what its network amounts to. -/
def reachOf (g : Graph) (id : NodeId) : Reach :=
  let network := Subgraph.ofRows [g.networkRow id]
  { companiesInfluenced := Engine.countOfType network "COMPANY"
    productsInfluenced := Engine.countOfType network "PRODUCT"
    fieldConsultantsManaged := Engine.countOfType network "FIELD_CONSULTANT"
    totalRelationships := network.edges.countP fun edge =>
      edge.source == id.text || edge.target == id.text }

/-- The reach of each listed consultant. -/
def reaches (g : Graph) (listed : List NodeId) : Fields Reach :=
  Fields.ofList ((g.consultants listed).map fun c => (c.id.text, g.reachOf c.id))

end Graph

namespace Engine

variable {s : MemoryStore}

theorem recommend_ok (hs : s.Healthy) (e : Engine) (seed : NodeId) (recommender : Recommender)
    {limit : Option Nat} {n : Nat} (hlimit : limit.getD defaultRecommendationLimit = n)
    (hrange : 1 ≤ n ∧ n ≤ maxRecommendationLimit) :
    (e.recommend seed recommender limit).run s =
      (.ok ((s.graph.ranked seed recommender n).map Candidate.view), s) := by
  have hvalidate : (Pattern.recommendation seed recommender n).validate = .ok () := if_pos hrange
  have hrun : (e.run { pattern := .recommendation seed recommender n }).run s =
      (.ok (s.graph.recommend seed recommender n), s) :=
    hs.run_plan e (Plan.check_unfiltered hvalidate .default)
  rw [recommend, hlimit, Call.run_bind_ok hrun, Graph.recommend_eq,
    RankedNode.ofRows_candidateRows, Call.run_ofExcept]

theorem reachOfRow_influenceRow (g : Graph) (c : Node) :
    reachOfRow (g.influenceRow c) = .ok (c.id.text, g.reachOf c.id) := rfl

/-- What an influence network gives, and the reach of each consultant in it. -/
theorem influence_eq (hs : s.Healthy) (e : Engine) {listed : List NodeId} (hlisted : listed ≠ []) :
    (e.influence listed).run s =
      (.ok ⟨Subgraph.ofRows (s.graph.influence listed), s.graph.reaches listed⟩, s) := by
  have hrun : (e.run { pattern := .influence listed }).run s =
      (.ok (s.graph.influence listed), s) :=
    hs.run_plan e (Plan.check_unfiltered rfl .default)
  have hread : (s.graph.influence listed).mapM reachOfRow =
      .ok ((s.graph.consultants listed).map fun c => (c.id.text, s.graph.reachOf c.id)) := by
    rw [Graph.influence, List.mapM_map]
    exact mapM_ok fun c _ => reachOfRow_influenceRow s.graph c
  have hsome : ¬ listed.isEmpty := by rwa [List.isEmpty_iff]
  rw [influence, if_neg hsome, Call.run_bind_ok hrun, hread,
    Call.run_bind_ok (Call.run_ofExcept _ s)]
  rfl

theorem influence_ok (hs : s.Healthy) (e : Engine) {listed : List NodeId} (hlisted : listed ≠ []) :
    ∃ reach : Node → Reach, (e.influence listed).run s =
      (.ok { graph := Subgraph.ofRows (s.graph.influence listed)
             reach := Fields.ofList ((s.graph.consultants listed).map fun c =>
               (c.id.text, reach c)) }, s) :=
  ⟨_, influence_eq hs e hlisted⟩

theorem detailOfRow_nodeRow (n : Node) (relationships : List Relationship)
    (connected : List Node) :
    detailOfRow (nodeRow n relationships connected) =
      .ok ⟨.ofNode n, relationships.map .ofRelationship, connected.length⟩ := by
  have hrelationships : (nodeRow n relationships connected).read "relationships"
      (Read.list Read.relationship) = .ok relationships := Read.list_ofRelationships relationships
  have hconnected : (nodeRow n relationships connected).read "connected_nodes"
      (Read.list Read.node) = .ok connected := Read.list_ofNodes connected
  rw [detailOfRow, hrelationships, hconnected]
  rfl

theorem detail_ok (hs : s.Healthy) (e : Engine) (id : NodeId) :
    (e.detail id).run s = (.ok ((s.graph.node? id).map fun n =>
      ⟨.ofNode n, (s.graph.incident id).map .ofRelationship,
        (s.graph.farNodes id (s.graph.incident id)).length⟩), s) := by
  have hrun : (e.run { pattern := .detail id }).run s = (.ok (s.graph.detail id), s) :=
    hs.run_plan e (Plan.check_unfiltered rfl .default)
  rw [detail, Call.run_bind_ok hrun, Graph.detail]
  cases s.graph.node? id with
  | none => rfl
  | some n =>
    simp only [detailOfRow_nodeRow]
    rw [Call.run_bind_ok (Call.run_ofExcept _ s)]
    rfl

end Engine

/-! ## Bad parameters -/

/-- What is wrong with a number that has to be within `1..=max`. -/
def outOfRange? (what : String) (max got : Nat) : Option ParameterFault :=
  if 1 ≤ got ∧ got ≤ max then none else some (.outOfRange what max got)

theorem outOfRange?_eq_none {what : String} {max got : Nat} :
    outOfRange? what max got = none ↔ 1 ≤ got ∧ got ≤ max := by
  simp [outOfRange?]

theorem Pattern.checkRange_eq_error {what : String} {max got : Nat} {fault : ParameterFault}
    (h : outOfRange? what max got = some fault) :
    checkRange what max got = .error (.invalidParameter fault) := by
  unfold outOfRange? at h
  unfold checkRange
  grind

/-- What is wrong with the parameters of a call. -/
def EngineCall.fault? : EngineCall → Option ParameterFault
  | .expand seeds depth _ =>
    if seeds.isEmpty then some .noSeeds else outOfRange? "depth" maxExpansionDepth depth
  | .paths _ _ maxDepth => outOfRange? "max_depth" maxPathDepth maxDepth
  | .recommend _ _ limit =>
    outOfRange? "recommendation limit" maxRecommendationLimit
      (limit.getD defaultRecommendationLimit)
  | .influence consultants => if consultants.isEmpty then some .noConsultants else none
  | _ => none

theorem EngineCall.fault?_expand_eq_none {seeds : List NodeId} {depth : Nat} {page : Page} :
    (EngineCall.expand seeds depth page).fault? = none ↔
      seeds ≠ [] ∧ 1 ≤ depth ∧ depth ≤ maxExpansionDepth := by
  cases seeds <;> simp [fault?, outOfRange?_eq_none]

theorem EngineCall.fault?_influence_eq_none {consultants : List NodeId} :
    (EngineCall.influence consultants).fault? = none ↔ consultants ≠ [] := by
  cases consultants <;> simp [fault?]

namespace Engine

section Refused

variable {σ : Type} [Store σ] {fault : ParameterFault}

theorem run_refused (e : Engine) {plan : Plan} {err : Error}
    (h : plan.pattern.validate = .error err) (t : σ) : (e.run plan).run t = (.error err, t) := by
  have hquery : plan.query = .error err := by
    rw [Plan.query, Plan.check, h]
    rfl
  rw [run, hquery]
  exact Call.run_bind_error (Call.run_ofExcept _ t) _

theorem expand_refused (e : Engine) {seeds : List NodeId} {depth : Nat} {page : Page}
    (h : (EngineCall.expand seeds depth page).fault? = some fault) (t : σ) :
    (e.expand seeds depth page).run t = (.error (.invalidParameter fault), t) := by
  simp only [EngineCall.fault?] at h
  unfold expand
  split at h
  case isTrue hempty =>
    cases h
    rw [if_pos hempty]
    rfl
  case isFalse hsome =>
    have hvalidate : (Pattern.expansion seeds depth).validate =
        .error (.invalidParameter fault) := Pattern.checkRange_eq_error h
    rw [if_neg hsome]
    exact Call.run_bind_error (run_refused e hvalidate t) _

theorem paths_refused (e : Engine) {sources targets : List NodeId} {maxDepth : Nat}
    (h : (EngineCall.paths sources targets maxDepth).fault? = some fault) (t : σ) :
    (e.paths sources targets maxDepth).run t = (.error (.invalidParameter fault), t) := by
  have hvalidate : (Pattern.paths (distinct sources) (apart sources targets) maxDepth).validate =
      .error (.invalidParameter fault) := by
    rw [Pattern.validate, Pattern.checkRange_eq_error h]
    rfl
  rw [paths_eq, hvalidate]
  exact Call.run_bind_error (Call.run_ofExcept _ t) _

theorem recommend_refused (e : Engine) {seed : NodeId} {recommender : Recommender}
    {limit : Option Nat}
    (h : (EngineCall.recommend seed recommender limit).fault? = some fault) (t : σ) :
    (e.recommend seed recommender limit).run t = (.error (.invalidParameter fault), t) := by
  have hvalidate : (Pattern.recommendation seed recommender
      (limit.getD defaultRecommendationLimit)).validate = .error (.invalidParameter fault) :=
    Pattern.checkRange_eq_error h
  exact Call.run_bind_error (run_refused e hvalidate t) _

theorem influence_refused (e : Engine) {consultants : List NodeId}
    (h : (EngineCall.influence consultants).fault? = some fault) (t : σ) :
    (e.influence consultants).run t = (.error (.invalidParameter fault), t) := by
  simp only [EngineCall.fault?] at h
  unfold influence
  split at h
  case isTrue hempty =>
    cases h
    rw [if_pos hempty]
    rfl
  case isFalse => cases h

/-- Bad parameters are refused with what is wrong, and no store is asked anything. -/
theorem call_refused (e : Engine) {c : EngineCall} (h : c.fault? = some fault) (t : σ) :
    (e.call c).run t = (.error (.invalidParameter fault), t) := by
  cases c with
  | expand seeds depth page => exact Call.run_map_error (expand_refused e h t) _
  | paths sources targets maxDepth => exact Call.run_map_error (paths_refused e h t) _
  | recommend seed recommender limit => exact Call.run_map_error (recommend_refused e h t) _
  | influence consultants => exact Call.run_map_error (influence_refused e h t) _
  | _ => cases h

end Refused

/-! ## Good parameters -/

/-- Calls with good parameters succeed on a healthy store, and no facet is degraded. -/
theorem call_answered {s : MemoryStore} (hs : s.Healthy) (e : Engine) {c : EngineCall}
    (hc : ∀ query, c ≠ .execute query) (h : c.fault? = none) :
    ∃ answer, (e.call c).run s = (.ok answer, s) ∧
      ∀ o, answer = .options o → o.degraded = [] := by
  cases c with
  | fetch request =>
    obtain ⟨_, _, hrun, -⟩ := fetch_eligible hs e request
    exact ⟨_, Call.run_map_ok hrun _, fun o ho => by cases ho⟩
  | options selection =>
    refine ⟨_, Call.run_map_ok (options_ok hs e selection) _, fun o ho => ?_⟩
    cases ho
    rfl
  | expand seeds depth page =>
    obtain ⟨hseeds, hdepth⟩ := EngineCall.fault?_expand_eq_none.1 h
    have hrun := expand_ok hs e hseeds hdepth page
    exact ⟨_, Call.run_map_ok hrun _, fun o ho => by cases ho⟩
  | paths sources targets maxDepth =>
    have hrun := paths_ok hs e sources targets (outOfRange?_eq_none.1 h)
    exact ⟨_, Call.run_map_ok hrun _, fun o ho => by cases ho⟩
  | recommend seed recommender limit =>
    have hrun := recommend_ok hs e seed recommender rfl (outOfRange?_eq_none.1 h)
    exact ⟨_, Call.run_map_ok hrun _, fun o ho => by cases ho⟩
  | influence consultants =>
    obtain ⟨_, hrun⟩ := influence_ok hs e (EngineCall.fault?_influence_eq_none.1 h)
    exact ⟨_, Call.run_map_ok hrun _, fun o ho => by cases ho⟩
  | detail node => exact ⟨_, Call.run_map_ok (detail_ok hs e node) _, fun o ho => by cases ho⟩
  | ping =>
    have hrun := s.run_checkReachable e.timeout
    rw [hs.prompt.obstacle?_eq_none] at hrun
    exact ⟨_, Call.run_map_ok hrun _, fun o ho => by cases ho⟩
  | execute query => exact absurd rfl (hc query)

/-- A call of the engine is refused for its parameters before any store is contacted, or it
succeeds on a healthy store without a degraded facet. So nothing is unbound, misplaced, missing or
of a wrong type on the way from the parameters to the answer. -/
theorem call_settled {s : MemoryStore} (hs : s.Healthy) (e : Engine) (c : EngineCall)
    (hc : ∀ query, c ≠ .execute query) :
    (∃ fault, c.fault? = some fault ∧ ∀ (σ : Type) [Store σ] (t : σ),
      (e.call c).run t = (.error (.invalidParameter fault), t)) ∨
    c.fault? = none ∧ ∃ answer, (e.call c).run s = (.ok answer, s) ∧
      ∀ o, answer = .options o → o.degraded = [] := by
  cases hfault : c.fault? with
  | some fault => exact .inl ⟨fault, rfl, fun σ _ t => call_refused e hfault t⟩
  | none => exact .inr ⟨rfl, call_answered hs e hc hfault⟩

theorem call_settled_sample :
    MemoryStore.sample.Healthy ∧
      (∀ (σ : Type) [Store σ] (t : σ), (call {} (.expand [⟨0⟩] 9 .default)).run t =
        (.error (.invalidParameter (.outOfRange "depth" 5 9)), t)) ∧
      ∃ answer, (call {} (.recommend ⟨0⟩ .similarEntities none)).run MemoryStore.sample =
        (.ok answer, MemoryStore.sample) := by
  refine ⟨MemoryStore.healthy_sample, ?_, ?_⟩
  · obtain ⟨fault, hfault, hrun⟩ | ⟨hnone, -⟩ := call_settled MemoryStore.healthy_sample {}
      (.expand [⟨0⟩] 9 .default) (fun _ heq => by cases heq)
    · cases hfault
      exact hrun
    · cases hnone
  · obtain ⟨fault, hfault, -⟩ | ⟨-, answer, hrun, -⟩ := call_settled MemoryStore.healthy_sample {}
      (.recommend ⟨0⟩ .similarEntities none) (fun _ heq => by cases heq)
    · cases hfault
    · exact ⟨answer, hrun⟩

end Engine

end FacetedGraph
