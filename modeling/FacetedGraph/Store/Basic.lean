import FacetedGraph.Query.Plan
import FacetedGraph.Row

/-!
# Stores

A store hands out connections, and a connection runs one query at a time. Time is counted, not
waited for: a store says how long a round trip takes, and a caller with less patience than that
gets a timeout.

## Main definitions

* `Call` — what a caller does with a store: it ends in a value or an error and leaves a store.
* `Store` — the operations of a store.
* `Store.execute`, `Store.checkReachable` — one query, and one round trip without a
  query, each over a connection of its own that is released whatever happens.
-/

namespace FacetedGraph

/-- A use of a store of type `σ`. -/
abbrev Call (σ : Type) := ExceptT Error (StateM σ)

class Store (σ : Type) where
  /-- Takes a connection. -/
  acquire : Call σ Unit
  /-- Gives a connection back. -/
  release : StateM σ Unit
  /-- Runs a query over a connection. -/
  run : Query → Call σ (List Row)
  /-- Goes to the store and back. -/
  ping : Call σ Unit
  /-- How many milliseconds a round trip takes. -/
  delay : σ → Nat

namespace Store

variable {σ α : Type} [Store σ]

/-- Gives a round trip so many milliseconds, or as many as it takes. -/
def within (timeout : Option Nat) (trip : Call σ α) : Call σ α := do
  match timeout with
  | none => trip
  | some limit =>
    if limit < delay (← getThe σ) then throw (.storeTimeout (some limit)) else trip

/-- Makes a round trip over a connection of its own. -/
def connected (trip : Call σ α) : Call σ α := do
  acquire
  let outcome ← ExceptT.lift trip.run
  ExceptT.lift release
  MonadExcept.ofExcept outcome

/-- Runs a query. -/
def execute (timeout : Option Nat) (query : Query) : Call σ (List Row) :=
  connected (within timeout (run query))

/-- Goes to the store and back. -/
def checkReachable (timeout : Option Nat) : Call σ Unit :=
  connected (within timeout ping)

end Store

end FacetedGraph
