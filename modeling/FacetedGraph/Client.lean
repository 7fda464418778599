import FacetedGraph.Engine
import FacetedGraph.Store.Memory

/-!
# Clients of a store in memory

A client loads a store, makes it fail, holds connections to it under names of its own, and calls
the engine. What it does is a sequence of actions, each with an outcome.

## Main definitions

* `EngineCall`, `Engine.call` — the operations of the engine as data.
* `Client`, `Action`, `Outcome`.
* `Client.act` — what an action does; `Client.actAll` — what a sequence of them does.
-/

namespace FacetedGraph

/-- An operation of the engine with its parameters. -/
inductive EngineCall
  | fetch (request : FetchRequest)
  | options (selection : Filter)
  | expand (seeds : List NodeId) (depth : Nat) (page : Page)
  | paths (sources targets : List NodeId) (maxDepth : Nat)
  | recommend (seed : NodeId) (recommender : Recommender) (limit : Option Nat)
  | influence (consultants : List NodeId)
  | detail (node : NodeId)
  | ping
  | execute (query : Query)

/-- What an operation of the engine gives. -/
inductive Answer
  | result (r : Subgraph)
  | options (o : FacetOptions)
  | paths (r : PathsResult)
  | candidates (nodes : List RankedNode)
  | network (n : InfluenceResult)
  | detail (d : Option DetailResult)
  | reachable
  | rows (rows : List Row)

/-- Does an operation. -/
def Engine.call {σ : Type} [Store σ] (e : Engine) : EngineCall → Call σ Answer
  | .fetch request => Answer.result <$> e.fetch request
  | .options selection => Answer.options <$> e.options selection
  | .expand seeds depth page => Answer.result <$> e.expand seeds depth page
  | .paths sources targets maxDepth => Answer.paths <$> e.paths sources targets maxDepth
  | .recommend seed recommender limit => Answer.candidates <$> e.recommend seed recommender limit
  | .influence consultants => Answer.network <$> e.influence consultants
  | .detail node => Answer.detail <$> e.detail node
  | .ping => (fun _ => Answer.reachable) <$> Store.checkReachable e.timeout
  | .execute query => Answer.rows <$> Store.execute e.timeout query

/-! ## Actions -/

structure Client where
  store : MemoryStore := {}
  engine : Engine := {}
  /-- The names of the connections that the client holds. -/
  held : List String := []

inductive Action
  | createNode (labels : List String) (properties : List (String × Value))
  | createRelationship (source target : NodeId) (type : String)
      (properties : List (String × Value))
  | setAvailable (available : Bool)
  | setLatency (latency : Option Nat)
  | setTimeout (timeout : Option Nat)
  | failWhen (fault : Plan → Option Error)
  | clearFaults
  | acquire (name : String)
  | release (name : String)
  | pingOver (name : String)
  | runOver (name : String) (query : Query)
  | call (c : EngineCall)

/-- What an action leads to. -/
inductive Outcome
  | node (id : NodeId)
  | relationship (id : RelationshipId)
  | openConnections (count : Nat)
  | done
  | pinged
  | rows (rows : List Row)
  | answer (a : Answer)
  | failed (e : Error)
  | notHeld (name : String)

namespace Outcome

def ofExcept {α : Type} (f : α → Outcome) : Except Error α → Outcome
  | .ok a => f a
  | .error e => failed e

end Outcome

namespace Client

/-- The client with another store. -/
def withStore (c : Client) (store : MemoryStore) : Client := { c with store }

/-- Lets go of a connection, if it is held. -/
def letGo (c : Client) (name : String) : Client :=
  if name ∈ c.held then { c with store := c.store.release, held := c.held.erase name } else c

/-- Takes a connection under a name, and then lets go of the one that was held under it. -/
def hold (c : Client) (name : String) : Outcome × Client :=
  match c.store.acquire with
  | (.ok (), store) =>
    let c := (c.withStore store).letGo name
    let c := { c with held := name :: c.held }
    (.openConnections c.store.openConnections, c)
  | (.error e, store) => (.failed e, c.withStore store)

/-- What an action does. -/
def act (c : Client) : Action → Outcome × Client
  | .createNode labels properties =>
    let (store, id) := c.store.createNode labels properties
    (.node id, c.withStore store)
  | .createRelationship source target type properties =>
    let (store, made) := c.store.createRelationship source target type properties
    (.ofExcept .relationship made, c.withStore store)
  | .setAvailable available => (.done, c.withStore (c.store.setAvailable available))
  | .setLatency latency => (.done, c.withStore (c.store.setLatency latency))
  | .setTimeout timeout => (.done, { c with engine := { timeout } })
  | .failWhen fault => (.done, c.withStore (c.store.failWhen fault))
  | .clearFaults => (.done, c.withStore c.store.clearFaults)
  | .acquire name => c.hold name
  | .release name =>
    let c := c.letGo name
    (.openConnections c.store.openConnections, c)
  | .pingOver name =>
    if name ∈ c.held then (.ofExcept (fun _ => .pinged) c.store.ping, c) else (.notHeld name, c)
  | .runOver name query =>
    if name ∈ c.held then (.ofExcept .rows (c.store.run query), c) else (.notHeld name, c)
  | .call operation =>
    let (answer, store) := (c.engine.call operation).run c.store
    (.ofExcept .answer answer, c.withStore store)

/-- What a sequence of actions does. -/
def actAll (c : Client) : List Action → List Outcome × Client
  | [] => ([], c)
  | a :: rest =>
    let (outcome, c) := c.act a
    let (outcomes, c) := c.actAll rest
    (outcome :: outcomes, c)

end Client

end FacetedGraph
