import FacetedGraph.Graph.Evaluate
import FacetedGraph.Store.Basic

/-!
# The store in memory

A store that holds a graph and evaluates plans on it. It can be made to fail: taken offline, slowed
down, or given a fault that answers plans with errors.

## Main definitions

* `MemoryStore`.
* `MemoryStore.createNode`, `MemoryStore.createRelationship`.
* `MemoryStore.acquire`, `MemoryStore.release`, `MemoryStore.run`, `MemoryStore.ping`.
* `FaultRule` — errors for plans by pattern and facet.
-/

namespace FacetedGraph

structure MemoryStore where
  graph : Graph := .empty
  openConnections : Nat := 0
  available : Bool := true
  /-- How many milliseconds each round trip takes. -/
  latency : Option Nat := none
  /-- The plans that fail, and how. -/
  fault : Option (Plan → Option Error) := none

namespace MemoryStore

/-! ## Loading -/

def createNode (s : MemoryStore) (labels : List String) (properties : List (String × Value)) :
    MemoryStore × NodeId :=
  let (graph, id) := s.graph.createNode labels properties
  ({ s with graph }, id)

/-- A relationship that cannot be made leaves the store as it was. -/
def createRelationship (s : MemoryStore) (source target : NodeId) (type : String)
    (properties : List (String × Value)) : MemoryStore × Except Error RelationshipId :=
  match s.graph.createRelationship source target type properties with
  | .ok (graph, id) => ({ s with graph }, .ok id)
  | .error e => (s, .error e)

/-! ## Faults -/

def setAvailable (s : MemoryStore) (available : Bool) : MemoryStore := { s with available }

def setLatency (s : MemoryStore) (latency : Option Nat) : MemoryStore := { s with latency }

def failWhen (s : MemoryStore) (fault : Plan → Option Error) : MemoryStore :=
  { s with fault := some fault }

/-- Online, without delay and without fault. -/
def clearFaults (s : MemoryStore) : MemoryStore :=
  { s with available := true, latency := none, fault := none }

/-! ## Connections -/

/-- Takes a connection, unless the store is offline. -/
def acquire (s : MemoryStore) : Except Error Unit × MemoryStore :=
  if s.available then (.ok (), { s with openConnections := s.openConnections + 1 })
  else (.error (.storeUnavailable .atConnecting), s)

def release (s : MemoryStore) : MemoryStore :=
  { s with openConnections := s.openConnections - 1 }

/-- A round trip on a connection that is open already. -/
def ping (s : MemoryStore) : Except Error Unit :=
  if s.available then .ok () else .error (.storeUnavailable .whileConnected)

/-- Evaluates the plan of a query, unless the store is offline or the plan is to fail. -/
def run (s : MemoryStore) (query : Query) : Except Error (List Row) := do
  s.ping
  match s.fault.bind fun fault => fault query.plan with
  | some e => .error e
  | none => s.graph.evaluate query.plan

instance : Store MemoryStore where
  acquire := fun s => s.acquire
  release := modify release
  run query := do MonadExcept.ofExcept ((← getThe MemoryStore).run query)
  ping := do MonadExcept.ofExcept (← getThe MemoryStore).ping
  delay s := s.latency.getD 0

/-- What the store shows of itself. -/
def summary (s : MemoryStore) : String :=
  "MemoryStore \x7b nodes: " ++ numberText s.graph.nodes.size ++ ", relationships: " ++
    numberText s.graph.relationships.size ++ ", open_connections: " ++
    numberText s.openConnections ++ " \x7d"

end MemoryStore

/-! ## Fault rules -/

/-- What plans a rule speaks of: those of a pattern and of a facet, where it names one. A name that
no pattern or no facet goes by selects no plan. -/
structure PlanSelector where
  pattern : Option String := none
  facet : Option String := none
  deriving DecidableEq

def PlanSelector.fits (s : PlanSelector) (plan : Plan) : Bool :=
  s.pattern.all (· == plan.pattern.name) &&
    s.facet.all fun name => plan.pattern.facet?.any (·.name == name)

/-- The plans of a selector fail with an error. -/
structure FaultRule where
  selector : PlanSelector
  error : Error

/-- The error of the first rule that fits. -/
def FaultRule.errorFor (rules : List FaultRule) (plan : Plan) : Option Error :=
  (rules.find? (·.selector.fits plan)).map (·.error)

end FacetedGraph
