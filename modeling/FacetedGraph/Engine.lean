import FacetedGraph.Facet.Options
import FacetedGraph.Result.Rows
import FacetedGraph.Store.Basic

/-!
# The engine

The operations that callers have: filtered fetch, options, expansion, path search,
recommendations, influence networks and the detail of a node. Each checks its parameters before
it goes to the store.

## Main definitions

* `Engine` — what all operations have in common.
* `Engine.fetch`, `Engine.options`, `Engine.allOptions`, `Engine.expand`, `Engine.paths`,
  `Engine.recommend`, `Engine.influence`, `Engine.detail`.
-/

namespace FacetedGraph

/-- The milliseconds that a query may take unless it is said otherwise. -/
def defaultTimeout : Nat := 30000

/-- How the operations are done: with so many milliseconds for each query, or without limit. -/
structure Engine where
  timeout : Option Nat := some defaultTimeout

namespace Engine

open MonadExcept (ofExcept)

variable {σ : Type} [Store σ]

/-- Runs a plan. -/
def run (e : Engine) (plan : Plan) : Call σ (List Row) := do
  let query ← ofExcept plan.query
  Store.execute e.timeout query

/-! ## Filtered fetch -/

/-- The plan of a request. -/
def fetchPlan (request : FetchRequest) : Except Error Plan := do
  let conditions ← request.filter.conditions "n" (some "r")
  return { pattern := .fetch request.neighborhood, conditions, page := request.page }

/-- The matching subjects that are on the page, with what is wanted of their surroundings. -/
def fetch (e : Engine) (request : FetchRequest) : Call σ Subgraph := do
  let rows ← e.run (← ofExcept (fetchPlan request))
  return (Subgraph.ofRows rows).answering request.filter request.page

/-! ## Options -/

/-- The queries for the options that are left under a selection, one for each facet. The
relationship dimensions of the selection play no part. -/
def facetQueries (selection : Filter) : Except Error (List (Facet × Query)) := do
  let conditions ← selection.nodeScoped.conditions "n" none
  Facet.all.mapM fun facet => do
    return (facet, ← ({ pattern := .options facet, conditions } : Plan).query)

/-- The options that are left under a selection. -/
def options (e : Engine) (selection : Filter) : Call σ FacetOptions := do
  Store.checkReachable e.timeout
  let queries ← ofExcept (facetQueries selection)
  let outcomes ← queries.mapM fun (facet, query) => do
    return (facet, ← ExceptT.lift (Store.execute e.timeout query).run)
  ofExcept (FacetOptions.resolve outcomes)

/-- The options of the whole store. -/
def allOptions (e : Engine) : Call σ FacetOptions := e.options {}

/-! ## Traversals -/

/-- What is within `depth` hops of the seeds. -/
def expand (e : Engine) (seeds : List NodeId) (depth : Nat) (page : Page) : Call σ Subgraph := do
  if seeds.isEmpty then throw (.invalidParameter .noSeeds)
  return Subgraph.ofRows (← e.run { pattern := .expansion seeds depth, page })

/-- The path of a row. -/
def pathOfRow (row : Row) : Except Error PathView := do
  let nodes ← row.read "path_nodes" (Read.list Read.node)
  let relationships ← row.read "path_relationships" (Read.list Read.relationship)
  let weight ← row.read "weight" Read.float
  return {
    nodes := nodes.map (·.id.text)
    relationships := relationships.map (·.id.text)
    weight }

/-- The lightest paths from the sources to those targets that are not sources themselves. Where
there is nothing to search the store is left alone. -/
def paths (e : Engine) (sources targets : List NodeId) (maxDepth : Nat) : Call σ PathsResult := do
  let sources := distinct sources
  let targets := (distinct targets).filter fun t => !sources.contains t
  let pattern := Pattern.paths sources targets maxDepth
  ofExcept pattern.validate
  if sources.isEmpty || targets.isEmpty then return {}
  let rows ← e.run { pattern }
  return { paths := ← ofExcept (rows.mapM pathOfRow), graph := Subgraph.ofRows rows }

/-- The best candidates for a seed. -/
def recommend (e : Engine) (seed : NodeId) (recommender : Recommender) (limit : Option Nat) :
    Call σ (List RankedNode) := do
  let limit := limit.getD defaultRecommendationLimit
  let rows ← e.run { pattern := .recommendation seed recommender limit }
  ofExcept (RankedNode.ofRows rows)

/-- How many nodes of a result are of a type. -/
def countOfType (result : Subgraph) (label : String) : Nat :=
  result.nodes.countP (·.type == label)

/-- The consultant of a row, and its reach. -/
def reachOfRow (row : Row) : Except Error (String × Reach) := do
  let consultant ← row.read "consultant" Read.node
  let connected ← row.read "connected_nodes" Read.value
  let relationships ← row.read "relationships" Read.value
  let reached :=
    Subgraph.ofRows [⟨[("connected_nodes", connected), ("relationships", relationships)]⟩]
  let id := consultant.id.text
  return (id, {
    companiesInfluenced := countOfType reached "COMPANY"
    productsInfluenced := countOfType reached "PRODUCT"
    fieldConsultantsManaged := countOfType reached "FIELD_CONSULTANT"
    totalRelationships := reached.edges.countP fun edge => edge.source == id || edge.target == id })

/-- What the consultants cover and rate, with the reach of each. -/
def influence (e : Engine) (consultants : List NodeId) : Call σ InfluenceResult := do
  if consultants.isEmpty then throw (.invalidParameter .noConsultants)
  let rows ← e.run { pattern := .influence consultants }
  let reach ← ofExcept (rows.mapM reachOfRow)
  return { graph := Subgraph.ofRows rows, reach := Fields.ofList reach }

/-- The detail of the node of a row. -/
def detailOfRow (row : Row) : Except Error DetailResult := do
  let node ← row.read "n" Read.node
  let relationships ← row.read "relationships" (Read.list Read.relationship)
  let connected ← row.read "connected_nodes" (Read.list Read.node)
  return {
    node := .ofNode node
    relationships := relationships.map .ofRelationship
    connectedNodes := connected.length }

/-- The detail of a node, if there is one. -/
def detail (e : Engine) (node : NodeId) : Call σ (Option DetailResult) := do
  let rows ← e.run { pattern := .detail node }
  match rows with
  | [] => return none
  | row :: _ => return some (← ofExcept (detailOfRow row))

end Engine

end FacetedGraph
