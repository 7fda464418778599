import FacetedGraph.Query.Plan
import Mathlib.Tactic.Common

/-!
# Plans that are not refused

## Main statements

* `Plan.check_ok`, `Plan.of_check_ok` — what a plan has to keep to.
* `Plan.check_unfiltered` — a plan without conditions.
* `Plan.query_ok`, `Plan.of_query_ok` — the query of a plan that is not refused.
* `Plan.text_query`, `Plan.text_of_query` — the text of a query is that of its plan.
-/

namespace FacetedGraph.Plan

/-- Predicates stand only where the pattern has something that they speak of. -/
theorem check_ok {plan : Plan} (hpattern : plan.pattern.validate = .ok ())
    (hrelation : plan.conditions.relation = [] ∨ plan.pattern.bindsRelation = true)
    (hnode : plan.conditions.node = [] ∨ plan.pattern.acceptsFilters = true) :
    plan.check = .ok () := by
  have hfilters : (!plan.conditions.node.isEmpty && !plan.pattern.acceptsFilters) = false := by
    rcases hnode with hnode | hnode <;> simp [hnode]
  unfold check
  cases hfirst : plan.conditions.relation with
  | nil => simp [hpattern, hfilters, bind, Except.bind, pure, Except.pure]
  | cons first rest =>
    have hbinds : plan.pattern.bindsRelation = true := by simpa [hfirst] using hrelation
    simp [hpattern, hfilters, hbinds, bind, Except.bind, pure, Except.pure]

theorem of_check_ok {plan : Plan} (h : plan.check = .ok ()) :
    (plan.conditions.relation = [] ∨ plan.pattern.bindsRelation = true) ∧
      (plan.conditions.node = [] ∨ plan.pattern.acceptsFilters = true) := by
  unfold check at h
  cases hpattern : plan.pattern.validate with
  | error e => simp [hpattern, bind, Except.bind] at h
  | ok =>
    cases hrelation : plan.conditions.relation <;> cases hbinds : plan.pattern.bindsRelation <;>
      cases hnode : plan.conditions.node <;> cases haccepts : plan.pattern.acceptsFilters <;>
        simp_all [bind, Except.bind, pure, Except.pure]

theorem check_unfiltered {pattern : Pattern} (h : pattern.validate = .ok ()) (page : Page) :
    ({ pattern, page } : Plan).check = .ok () :=
  check_ok h (.inl rfl) (.inl rfl)

theorem query_ok {plan : Plan} (h : plan.check = .ok ()) :
    plan.query = .ok ⟨plan.text, plan.parameters, plan⟩ := by
  rw [query, h]
  rfl

theorem text_query (plan : Plan) :
    plan.query.map Query.text = plan.check.map fun _ => plan.text := by
  unfold query
  cases plan.check <;> rfl

theorem of_query_ok {plan : Plan} {q : Query} (h : plan.query = .ok q) :
    plan.check = .ok () ∧ q = ⟨plan.text, plan.parameters, plan⟩ := by
  unfold query at h
  cases hcheck : plan.check with
  | error e => simp [hcheck, bind, Except.bind] at h
  | ok =>
    rw [hcheck] at h
    cases h
    exact ⟨rfl, rfl⟩

theorem text_of_query {plan : Plan} {q : Query} (h : plan.query = .ok q) : q.text = plan.text := by
  rw [(of_query_ok h).2]

end FacetedGraph.Plan
