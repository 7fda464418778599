import FacetedGraph.Filter.Request
import FacetedGraph.Facet.Basic
import FacetedGraph.Value.Basic

/-!
# Patterns

The fixed shapes of queries, with what each of them takes.

## Main definitions

* `Recommender`, `Recommender.parse`.
* `Pattern`, `Pattern.name`, `Pattern.validate`.
* `Pattern.parameters` — what a pattern and its page bind.
-/

namespace FacetedGraph

/-- How candidates are found: by what they share with the seed, by common neighbours, or by what
the surroundings of the seed lack. -/
inductive Recommender
  | similarEntities
  | potentialConnections
  | expansionOpportunities
  deriving DecidableEq

namespace Recommender

def all : List Recommender :=
  [similarEntities, potentialConnections, expansionOpportunities]

/-- The name that callers use. -/
def name : Recommender → String
  | similarEntities => "similar_nodes"
  | potentialConnections => "potential_connections"
  | expansionOpportunities => "expansion_opportunities"

/-- The name in JSON. -/
def jsonName : Recommender → String
  | similarEntities => "similar_entities"
  | potentialConnections => "potential_connections"
  | expansionOpportunities => "expansion_opportunities"

/-- The recommender that a text names by either name, with blanks around it. -/
def parse (s : String) : Except Error Recommender :=
  let word := trimmed s
  match all.find? fun r => r.name == word || r.jsonName == word with
  | some r => .ok r
  | none => .error (.invalidParameter (.unknownRecommender word))

def toJson (r : Recommender) : Json := .string r.jsonName

def ofJson (j : Json) : Option Recommender := j.asName (all.map fun r => (r.jsonName, r))

end Recommender

def maxExpansionDepth : Nat := 5

def maxPathDepth : Nat := 6

def defaultRecommendationLimit : Nat := 10

def maxRecommendationLimit : Nat := 50

inductive Pattern
  /-- The subjects that satisfy conditions, with so much of their surroundings. -/
  | fetch (neighborhood : Neighborhood)
  /-- What a facet offers around the subjects. -/
  | options (facet : Facet)
  /-- What is within `depth` hops of a seed. -/
  | expansion (seeds : List NodeId) (depth : Nat)
  /-- Lightest paths from each source to each target. -/
  | paths (sources targets : List NodeId) (maxDepth : Nat)
  /-- Scored candidates for a seed. -/
  | recommendation (seed : NodeId) (recommender : Recommender) (limit : Nat)
  /-- What consultants cover and rate. -/
  | influence (consultants : List NodeId)
  /-- A node with what touches it. -/
  | detail (node : NodeId)
  deriving DecidableEq

namespace Pattern

def name : Pattern → String
  | fetch _ => "filtered_fetch"
  | options _ => "cascading_options"
  | expansion .. => "bounded_expansion"
  | paths .. => "path_search"
  | recommendation .. => "recommendation"
  | influence _ => "influence_network"
  | detail _ => "node_detail"

/-- Whether the pattern has a relationship that predicates can speak of. -/
def bindsRelation : Pattern → Bool
  | fetch _ => true
  | _ => false

/-- Whether the answer is cut into pages. -/
def isPaged : Pattern → Bool
  | fetch _ | expansion .. => true
  | _ => false

/-- Whether the pattern has subjects that predicates can speak of. -/
def acceptsFilters : Pattern → Bool
  | fetch _ | options _ => true
  | _ => false

/-- The facet whose options the pattern asks for. -/
def facet? : Pattern → Option Facet
  | options facet => some facet
  | _ => none

/-- Refuses a number outside `1..=max`. -/
def checkRange (what : String) (max got : Nat) : Except Error Unit :=
  if 1 ≤ got ∧ got ≤ max then .ok () else .error (.invalidParameter (.outOfRange what max got))

/-- Refuses parameters out of range, and a node that is a source and a target at once. -/
def validate : Pattern → Except Error Unit
  | expansion _ depth => checkRange "depth" maxExpansionDepth depth
  | paths sources targets maxDepth => do
    checkRange "max_depth" maxPathDepth maxDepth
    match sources.find? targets.contains with
    | some shared => .error (.invalidParameter (.sharedEndpoint shared))
    | none => .ok ()
  | recommendation _ _ limit =>
    checkRange "recommendation limit" maxRecommendationLimit limit
  | _ => .ok ()

/-- A number as the integer with the same 64 bits. -/
def wrapped (n : Nat) : Value := .int (wrapInt64 n)

def identities (ids : List NodeId) : Value := .list (ids.map fun id => wrapped id.number)

/-- What the page binds. -/
def pageParameters (pattern : Pattern) (page : Page) : List (String × Value) :=
  if pattern.isPaged then [("limit", wrapped page.limit), ("offset", wrapped page.offset)] else []

/-- What the pattern binds itself. -/
def ownParameters : Pattern → List (String × Value)
  | fetch _ | options _ => []
  | expansion seeds depth => [("seed_ids", identities seeds), ("depth", wrapped depth)]
  | paths sources targets maxDepth =>
    [("source_ids", identities sources), ("target_ids", identities targets),
      ("max_depth", wrapped maxDepth)]
  | recommendation seed _ limit => [("seed_id", wrapped seed.number), ("limit", wrapped limit)]
  | influence consultants => [("consultant_ids", identities consultants)]
  | detail node => [("node_id", wrapped node.number)]

/-- What a pattern and its page bind. -/
def parameters (pattern : Pattern) (page : Page) : List (String × Value) :=
  pattern.pageParameters page ++ pattern.ownParameters

end Pattern

end FacetedGraph
