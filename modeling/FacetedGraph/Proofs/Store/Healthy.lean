import FacetedGraph.Proofs.Graph.Growth
import FacetedGraph.Proofs.Query.Plan
import FacetedGraph.Proofs.Store.Trip

/-!
# Calls on a healthy store

On a store in memory that is online, without delay and without fault, one query is the evaluation
of its plan.

## Main definitions

* `MemoryStore.Healthy`.
* `MemoryStore.sample` — a small store of that kind.

## Main statements

* `MemoryStore.Healthy.execute`, `MemoryStore.Healthy.run_plan` — what a query gives.
-/

namespace FacetedGraph

namespace MemoryStore

structure Healthy (s : MemoryStore) : Prop where
  available : s.available = true
  latency : s.latency = none
  fault : s.fault = none

namespace Healthy

variable {s : MemoryStore}

theorem prompt (h : s.Healthy) : s.Prompt := ⟨h.available, h.latency⟩

theorem run (h : s.Healthy) (query : Query) : s.run query = s.graph.evaluate query.plan := by
  simp [h.prompt.run, failure?, h.fault]

/-- A query gives what its plan evaluates to and leaves the store as it was. -/
theorem execute (h : s.Healthy) (timeout : Option Nat) (query : Query) :
    (Store.execute timeout query).run s = (s.graph.evaluate query.plan, s) := by
  rw [s.run_execute, h.prompt.obstacle?_eq_none, h.run]
  rfl

/-- A plan that is not refused gives what it evaluates to. -/
theorem run_plan (h : s.Healthy) (e : Engine) {plan : Plan} (hplan : plan.check = .ok ()) :
    (e.run plan).run s = (s.graph.evaluate plan, s) := by
  rw [Engine.run, Plan.query_ok hplan, Call.run_bind_ok (Call.run_ofExcept _ s), h.execute]

end Healthy

/-! ## A sample -/

/-- Two products and two companies: `1` rates `0` and `2`, `2` and `0` are linked, `0` also with
itself, and `3` stands alone. -/
def sample : MemoryStore :=
  let s := (({} : MemoryStore).createNode ["PRODUCT"]
    [("name", .string "Alpha"), ("asset_class", .string "Equity")]).1
  let s := (s.createNode ["CLIENT", "COMPANY"]
    [("name", .string "Acme"), ("region", .list [.string "EU", .string "US"])]).1
  let s := (s.createNode ["PRODUCT"]
    [("name", .string "Beta"), ("asset_class", .list [.string "Bond", .string "Equity"])]).1
  let s := (s.createNode ["COMPANY"] []).1
  let s := (s.createRelationship ⟨1⟩ ⟨0⟩ "RATES"
    [("rankvalue", .string "3.5"), ("rankgroup", .string "Positive"), ("weight", .int 3)]).1
  let s := (s.createRelationship ⟨1⟩ ⟨2⟩ "RATES"
    [("rankvalue", .int 4), ("rankgroup", .string "Negative")]).1
  let s := (s.createRelationship ⟨0⟩ ⟨0⟩ "LINKS" []).1
  (s.createRelationship ⟨2⟩ ⟨0⟩ "LINKS" [("weight", .int 0)]).1

theorem healthy_sample : sample.Healthy := ⟨rfl, rfl, rfl⟩

theorem built_sample : sample.graph.Built := by
  repeat' first | exact .empty | apply built_createRelationship | apply built_createNode

end MemoryStore

end FacetedGraph
