import FacetedGraph.Filter.Conditions
import FacetedGraph.Query.Pattern
import FacetedGraph.Query.Text

/-!
# Queries

A plan is a pattern with conditions and a page. A query is a plan that is ready for a store, with
the text and the parameters that were made from it.

## Main definitions

* `Plan`, `Plan.text`, `Plan.check`.
* `Query`, `Plan.query`.
-/

namespace FacetedGraph

structure Plan where
  pattern : Pattern
  conditions : Conditions := .unfiltered
  page : Page := .default

/-- A query for a store that reads text and for one that evaluates plans. -/
structure Query where
  text : String
  parameters : List (String × Value)
  plan : Plan

namespace Plan

/-- The pieces of the text of a plan. -/
def template (plan : Plan) : Template :=
  match plan.pattern with
  | .fetch neighborhood =>
    if plan.conditions.isRelational then
      Template.relationalFetch plan.conditions.node plan.conditions.relation
    else Template.fetch plan.conditions.node neighborhood
  | .options facet => Template.options plan.conditions.node facet
  | .expansion .. => Template.expansion
  | .paths .. => Template.paths
  | .recommendation _ recommender _ => Template.recommendation recommender
  | .influence _ => Template.influence
  | .detail _ => Template.detail

def text (plan : Plan) : String := plan.template.render

/-- What the conditions, the page and the pattern bind; of one name the pattern wins. -/
def parameters (plan : Plan) : List (String × Value) :=
  Fields.insertAll plan.conditions.bindings (plan.pattern.parameters plan.page)

/-- Refuses parameters of the pattern that are out of range, predicates over a relationship where
the pattern has none, and predicates over the subject where it has none. -/
def check (plan : Plan) : Except Error Unit := do
  plan.pattern.validate
  match plan.conditions.relation with
  | first :: _ =>
    if !plan.pattern.bindsRelation then
      .error (.incompatibleFilter (first.relationKey?.getD "relation") plan.pattern.name)
  | [] => pure ()
  if !plan.conditions.node.isEmpty && !plan.pattern.acceptsFilters then
    .error (.invalidParameter (.subjectFilters plan.pattern.name))

/-- The query of a plan, unless the plan is refused. -/
def query (plan : Plan) : Except Error Query := do
  plan.check
  return { text := plan.text, parameters := plan.parameters, plan }

end Plan

end FacetedGraph
