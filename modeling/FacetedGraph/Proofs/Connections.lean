import FacetedGraph.Proofs.Store.Alike

/-!
# Connections are given back

The open connections of a store are those that a client holds. An operation of the engine takes
connections of its own and gives each of them back, whatever comes of it, and it gives back none
that it has not taken.

## Main definitions

* `standing` — the connections that are held by the record of what was done.
* `WatchedStore` — a store in memory that notes when a connection too many is given back.

## Main statements

* `MemoryStore.sameTrips_watch` — trips over a watched store are those over the store itself.
* `Client.held_actAll` — a client holds what its record says.
* `Client.connections_balanced` — the count of open connections after any actions.
-/

namespace FacetedGraph

/-! ## Watched stores -/

/-- A store in memory, and whether a connection was given back while none was open. -/
structure WatchedStore where
  store : MemoryStore
  overdrawn : Bool := false

instance : Store WatchedStore where
  acquire := fun w =>
    let (outcome, store) := w.store.acquire
    (outcome, { w with store })
  release := modify fun w =>
    { store := w.store.release, overdrawn := w.overdrawn || w.store.openConnections == 0 }
  run query := do MonadExcept.ofExcept ((← getThe WatchedStore).store.run query)
  ping := do MonadExcept.ofExcept (← getThe WatchedStore).store.ping
  delay w := Store.delay w.store

namespace MemoryStore

/-- Watches a store from now on. -/
def watch (s : MemoryStore) : WatchedStore := { store := s }

/-- A trip over a connection of its own. The store is seen by the trip with one more connection
open, so that one is there to be given back. -/
theorem connected_watch {α : Type} {x : Call MemoryStore α} {y : Call WatchedStore α}
    (h : ∀ s : MemoryStore, x.Alike s y s.watch) (s : MemoryStore) (timeout : Option Nat) :
    (Store.connected (Store.within timeout x)).Alike s
      (Store.connected (Store.within timeout y)) s.watch := by
  cases hs : s.available with
  | false =>
    have hacquire : s.acquire = (.error (.storeUnavailable .atConnecting), s) := by
      simp [acquire, hs]
    refine Store.connected_alike_error _ _ hacquire ?_
    change (s.acquire.1, ({ store := s.acquire.2 } : WatchedStore)) = _
    rw [hacquire]
    rfl
  | true =>
    let opened : MemoryStore := { s with openConnections := s.openConnections + 1 }
    have hacquire : s.acquire = (.ok (), opened) := by simp [acquire, hs, opened]
    have hwatched : (Store.acquire : Call WatchedStore Unit).run s.watch =
        (.ok (), opened.watch) := by
      change (s.acquire.1, ({ store := s.acquire.2 } : WatchedStore)) = _
      rw [hacquire]
      rfl
    have htrip := Store.within_alike (s := opened) (t := opened.watch) rfl (h opened) timeout
    exact Store.connected_alike hacquire rfl hwatched rfl htrip

theorem sameTrips_watch (s : MemoryStore) : SameTrips s s.watch where
  execute timeout query :=
    s.connected_watch (fun s => Call.Alike.ofExcept (s.run query)) timeout
  reachable timeout := s.connected_watch (fun s => Call.Alike.ofExcept s.ping) timeout

end MemoryStore

/-! ## Records -/

/-- The names under which connections are held after one more action. A connection that is taken
takes the place of the one that was held under its name. -/
def standingAfter (held : List String) : Action × Outcome → List String
  | (.acquire name, .openConnections _) => name :: held.erase name
  | (.release name, _) => held.erase name
  | _ => held

def standing (record : List (Action × Outcome)) : List String := record.foldl standingAfter []

namespace Client

variable (c : Client)

/-! ## Connections of a client -/

theorem held_letGo (name : String) : (c.letGo name).held = c.held.erase name := by
  unfold letGo
  split
  · rfl
  · rename_i hname
    rw [List.erase_of_not_mem hname]

/-- Where all connections that are held are counted, letting go of one takes one off the count. -/
theorem openConnections_letGo (h : c.held.length ≤ c.store.openConnections) (name : String) :
    (c.letGo name).store.openConnections + c.held.length =
      c.store.openConnections + (c.letGo name).held.length := by
  unfold letGo
  split
  · rename_i hname
    have hlength := List.length_erase_of_mem hname
    have hpos := List.length_pos_of_mem hname
    simp only [MemoryStore.release]
    omega
  · rfl

theorem hold_offline {name : String} (h : c.store.available = false) :
    c.hold name = (.failed (.storeUnavailable .atConnecting), c) := by
  simp [hold, MemoryStore.acquire, h, withStore]

/-- The client with one more connection open, before it is known under a name. -/
def opened : Client :=
  c.withStore { c.store with openConnections := c.store.openConnections + 1 }

theorem hold_online {name : String} (h : c.store.available = true) :
    c.hold name = (.openConnections (c.opened.letGo name).store.openConnections,
      { c.opened.letGo name with held := name :: (c.opened.letGo name).held }) := by
  simp [hold, MemoryStore.acquire, h, opened]

/-- An operation of the engine leaves its client as it was, and so does it leave a watched store. -/
theorem act_call (operation : EngineCall) :
    ∃ answer, c.act (.call operation) = (.ofExcept .answer answer, c) ∧
      (c.engine.call operation).run c.store.watch = (answer, c.store.watch) := by
  obtain ⟨answer, hrun, hwatched⟩ :=
    Engine.call_alike c.store.sameTrips_watch c.engine operation
  refine ⟨answer, ?_, hwatched⟩
  simp only [act, hrun]
  rfl

/-! ## One action -/

theorem held_act (a : Action) : (c.act a).2.held = standingAfter c.held (a, (c.act a).1) := by
  cases a with
  | acquire name =>
    cases h : c.store.available with
    | false => simp [act, c.hold_offline h, standingAfter]
    | true => simp [act, c.hold_online h, standingAfter, held_letGo, opened, withStore]
  | release name => exact c.held_letGo name
  | pingOver name => by_cases h : name ∈ c.held <;> simp [act, h, standingAfter]
  | runOver name query => by_cases h : name ∈ c.held <;> simp [act, h, standingAfter]
  | call operation =>
    obtain ⟨answer, h, -⟩ := c.act_call operation
    rw [h]
    rfl
  | _ => rfl

theorem openConnections_act (h : c.store.openConnections = c.held.length) (a : Action) :
    (c.act a).2.store.openConnections = (c.act a).2.held.length := by
  cases a with
  | createRelationship source target type properties =>
    rw [held_act]
    simp only [act, MemoryStore.createRelationship]
    split <;> exact h
  | acquire name =>
    cases hs : c.store.available with
    | false => simpa [act, c.hold_offline hs] using h
    | true =>
      have hopened : c.opened.store.openConnections = c.opened.held.length + 1 :=
        congrArg (· + 1) h
      have hletGo := c.opened.openConnections_letGo (by omega) name
      simp only [act, c.hold_online hs, List.length_cons]
      omega
  | release name =>
    have hletGo := c.openConnections_letGo (by omega) name
    simp only [act]
    omega
  | pingOver name => by_cases hname : name ∈ c.held <;> simpa [act, hname] using h
  | runOver name query => by_cases hname : name ∈ c.held <;> simpa [act, hname] using h
  | call operation =>
    obtain ⟨answer, hact, -⟩ := c.act_call operation
    rw [hact]
    exact h
  | _ => exact h

/-! ## Many actions -/

theorem held_actAll (actions : List Action) :
    (c.actAll actions).2.held =
      (actions.zip (c.actAll actions).1).foldl standingAfter c.held := by
  induction actions generalizing c with
  | nil => rfl
  | cons a rest ih =>
    simp only [actAll, List.zip_cons_cons, List.foldl_cons]
    rw [ih, held_act]

theorem openConnections_actAll (h : c.store.openConnections = c.held.length)
    (actions : List Action) :
    (c.actAll actions).2.store.openConnections = (c.actAll actions).2.held.length := by
  induction actions generalizing c with
  | nil => exact h
  | cons a rest ih => exact ih _ (c.openConnections_act h a)

/-- Whatever was done, the open connections are those that were taken and not let go of. Letting go
of one takes exactly one off the count, and taking another one in its place none. An operation of
the engine, whatever its outcome, leaves the client with its whole store as it was, and on the way
gives no connection back while none is open. -/
theorem connections_balanced (actions : List Action) :
    let run := ({} : Client).actAll actions
    let c := run.2
    let held := standing (actions.zip run.1)
    c.store.openConnections = held.length ∧
    (∀ name ∈ held,
      (c.act (.release name)).2.store.openConnections + 1 = c.store.openConnections ∧
      (c.act (.acquire name)).2.store.openConnections = c.store.openConnections) ∧
    ∀ operation, ∃ answer,
      c.act (.call operation) = (.ofExcept .answer answer, c) ∧
      (c.engine.call operation).run c.store.watch = (answer, c.store.watch) := by
  intro run c held
  have hheld : c.held = held := held_actAll {} actions
  have hcount : c.store.openConnections = c.held.length := openConnections_actAll {} rfl actions
  refine ⟨hheld ▸ hcount, fun name hname => ?_, c.act_call⟩
  rw [← hheld] at hname
  have hlength := List.length_erase_of_mem hname
  have hpos := List.length_pos_of_mem hname
  constructor
  · rw [c.openConnections_act hcount, c.held_act]
    simp only [standingAfter]
    omega
  · cases hs : c.store.available with
    | false => simp [act, c.hold_offline hs]
    | true =>
      rw [c.openConnections_act hcount, c.held_act, act, c.hold_online hs]
      simp only [standingAfter, List.length_cons]
      omega

end Client

end FacetedGraph
