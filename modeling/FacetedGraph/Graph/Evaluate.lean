import FacetedGraph.Graph.Expansion
import FacetedGraph.Graph.Influence
import FacetedGraph.Graph.LightestPath
import FacetedGraph.Graph.Offer
import FacetedGraph.Graph.Recommendation
import FacetedGraph.Query.Plan

/-!
# Evaluation of plans

A graph answers a plan with rows.

## Main definitions

* `Graph.evaluate`.
-/

namespace FacetedGraph

/-- The rows that answer a plan. Only the conditions of a plan can be wrong. -/
def Graph.evaluate (g : Graph) (plan : Plan) : Except Error (List Row) :=
  match plan.pattern with
  | .fetch neighborhood =>
    if plan.conditions.isRelational then g.fetchRelational plan.conditions plan.page
    else g.fetch plan.conditions neighborhood plan.page
  | .options facet => g.offer plan.conditions facet.source
  | .expansion seeds depth => .ok (g.expand seeds depth plan.page)
  | .paths sources targets maxDepth => .ok (g.searchPaths sources targets maxDepth)
  | .recommendation seed recommender limit => .ok (g.recommend seed recommender limit)
  | .influence consultants => .ok (g.influence consultants)
  | .detail node => .ok (g.detail node)

end FacetedGraph
