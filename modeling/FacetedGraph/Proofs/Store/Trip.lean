import FacetedGraph.Engine
import FacetedGraph.Store.Memory
import Mathlib.Tactic.Common

/-!
# Trips to a store in memory

A call ends in a value or an error and leaves a store. A trip takes a connection of its own and
gives it back on every way out. So a store in memory is after a trip what it was before, whatever
state it is in and whatever comes of the trip.

## Main definitions

* `MemoryStore.obstacle?` — what keeps a trip from arriving.
* `MemoryStore.Prompt` — nothing does.
* `MemoryStore.failure?` — the error that a query is made to fail with.

## Main statements

* `Call.run_bind_ok` — the first of two calls ends in a value.
* `MemoryStore.run_connected` — what a trip leads to.
* `MemoryStore.run_execute`, `MemoryStore.run_checkReachable` — the two kinds of trips.
-/

namespace FacetedGraph

/-! ## Steps of a call -/

namespace Call

variable {σ α β : Type}

theorem run_bind (x : Call σ α) (f : α → Call σ β) (s : σ) :
    (x >>= f).run s =
      match x.run s with
      | (.ok a, t) => (f a).run t
      | (.error e, t) => (.error e, t) := by
  simp only [bind, ExceptT.bind, ExceptT.run, ExceptT.mk, StateT.bind, ExceptT.bindCont]
  generalize (x s : Except Error α × σ) = outcome
  obtain ⟨_ | _, _⟩ := outcome <;> rfl

theorem run_bind_ok {x : Call σ α} {s t : σ} {a : α} (h : x.run s = (.ok a, t))
    (f : α → Call σ β) : (x >>= f).run s = (f a).run t := by
  rw [run_bind, h]

theorem run_bind_error {x : Call σ α} {s t : σ} {e : Error} (h : x.run s = (.error e, t))
    (f : α → Call σ β) : (x >>= f).run s = (.error e, t) := by
  rw [run_bind, h]

theorem run_map_ok {x : Call σ α} {s t : σ} {a : α} (h : x.run s = (.ok a, t)) (f : α → β) :
    (f <$> x).run s = (.ok (f a), t) :=
  run_bind_ok h fun a => pure (f a)

theorem run_map_error {x : Call σ α} {s t : σ} {e : Error} (h : x.run s = (.error e, t))
    (f : α → β) : (f <$> x).run s = (.error e, t) :=
  run_bind_error h fun a => pure (f a)

theorem run_ofExcept (x : Except Error α) (s : σ) :
    (MonadExcept.ofExcept x : Call σ α).run s = (x, s) := by
  cases x <;> rfl

/-- A call that is lifted never fails, and its outcome is a value. -/
theorem run_lift {x : Call σ α} {s t : σ} {outcome : Except Error α} (h : x.run s = (outcome, t)) :
    (ExceptT.lift x.run : Call σ (Except Error α)).run s = (.ok outcome, t) := by
  change (Except.ok (x.run s).1, (x.run s).2) = _
  rw [h]

/-- Calls that leave the store alone give their values one after the other. -/
theorem run_mapM_ok {f : α → Call σ β} {g : α → β} {s : σ} {items : List α}
    (h : ∀ a ∈ items, (f a).run s = (.ok (g a), s)) :
    (items.mapM f).run s = (.ok (items.map g), s) := by
  induction items with
  | nil => rfl
  | cons a rest ih =>
    rw [List.mapM_cons, run_bind_ok (h a List.mem_cons_self),
      run_bind_ok (ih fun b hb => h b (List.mem_cons_of_mem _ hb))]
    rfl

/-- What is seen of the outcome of a call is seen of the value that it ends in. -/
theorem view_of_run {x : Call σ α} {s t : σ} {a : α} {view : α → β} {b : β}
    (h : x.run s = (.ok a, t)) (hview : (x.run s).1.map view = .ok b) : view a = b := by
  rw [h] at hview
  exact Except.ok.inj hview

end Call

namespace MemoryStore

variable {α : Type}

/-- A store that is offline hands out no connection, and a slow one exhausts the patience of the
caller. -/
def obstacle? (s : MemoryStore) (timeout : Option Nat) : Option Error :=
  if s.available then
    (timeout.filter (· < s.latency.getD 0)).map fun limit => .storeTimeout (some limit)
  else some (.storeUnavailable .atConnecting)

/-- Online and without delay. Plans may still be made to fail. -/
structure Prompt (s : MemoryStore) : Prop where
  available : s.available = true
  latency : s.latency = none

/-- The error that a query is made to fail with. -/
def failure? (s : MemoryStore) (query : Query) : Option Error :=
  s.fault.bind fun fault => fault query.plan

theorem Prompt.run {s : MemoryStore} (h : s.Prompt) (query : Query) :
    s.run query = (s.failure? query).elim (s.graph.evaluate query.plan) .error := by
  unfold MemoryStore.run failure?
  cases s.fault.bind fun fault => fault query.plan <;>
    simp [ping, h.available, bind, Except.bind]

theorem Prompt.obstacle?_eq_none {s : MemoryStore} (h : s.Prompt) (timeout : Option Nat) :
    s.obstacle? timeout = none := by
  simp [obstacle?, h.available, h.latency]

/-- The outcome of an action that leaves the store alone, once the store is reached. -/
theorem run_within {s : MemoryStore} (hs : s.available = true) (timeout : Option Nat)
    {trip : Call MemoryStore α} {outcome : Except Error α} (htrip : trip.run s = (outcome, s)) :
    (Store.within timeout trip).run s = ((s.obstacle? timeout).elim outcome .error, s) := by
  cases timeout with
  | none => simpa [Store.within, obstacle?, hs] using htrip
  | some limit =>
    have hget : (getThe MemoryStore : Call MemoryStore MemoryStore).run s = (.ok s, s) := rfl
    have hdelay : Store.delay s = s.latency.getD 0 := rfl
    rw [Store.within, Call.run_bind_ok hget, hdelay]
    by_cases hlate : limit < s.latency.getD 0
    · simp [obstacle?, hs, hlate, Option.filter_some]
      rfl
    · simpa [obstacle?, hs, hlate, Option.filter_some] using htrip

/-- The connection is given back whether the trip is in time and whether it ends in a value. -/
theorem run_connected (s : MemoryStore) (timeout : Option Nat) {trip : Call MemoryStore α}
    {outcome : Except Error α}
    (htrip : ∀ n, trip.run { s with openConnections := n } =
      (outcome, { s with openConnections := n })) :
    (Store.connected (Store.within timeout trip)).run s =
      ((s.obstacle? timeout).elim outcome .error, s) := by
  let opened : MemoryStore := { s with openConnections := s.openConnections + 1 }
  cases hs : s.available with
  | false =>
    have hacquire : (Store.acquire : Call MemoryStore Unit).run s =
        (.error (.storeUnavailable .atConnecting), s) := by
      change s.acquire = _
      simp [acquire, hs]
    rw [Store.connected, Call.run_bind, hacquire]
    simp [obstacle?, hs]
  | true =>
    have hacquire : (Store.acquire : Call MemoryStore Unit).run s = (.ok (), opened) := by
      change s.acquire = _
      simp [acquire, hs, opened]
    have hwithin : (Store.within timeout trip).run opened =
        ((s.obstacle? timeout).elim outcome .error, opened) :=
      run_within (s := opened) hs timeout (htrip _)
    have hrelease : (ExceptT.lift Store.release : Call MemoryStore Unit).run opened =
        (.ok (), s) := rfl
    rw [Store.connected, Call.run_bind_ok hacquire, Call.run_bind_ok (Call.run_lift hwithin),
      Call.run_bind_ok hrelease, Call.run_ofExcept]

theorem run_execute (s : MemoryStore) (timeout : Option Nat) (query : Query) :
    (Store.execute timeout query).run s =
      ((s.obstacle? timeout).elim (s.run query) .error, s) := by
  refine s.run_connected timeout fun n => ?_
  change (MonadExcept.ofExcept (s.run query) : Call MemoryStore (List Row)).run _ = _
  rw [Call.run_ofExcept]

theorem run_checkReachable (s : MemoryStore) (timeout : Option Nat) :
    (Store.checkReachable timeout).run s = ((s.obstacle? timeout).elim (.ok ()) .error, s) := by
  have hping : (s.obstacle? timeout).elim s.ping .error =
      (s.obstacle? timeout).elim (.ok ()) .error := by
    cases hs : s.available <;> simp [obstacle?, ping, hs]
  rw [← hping]
  refine s.run_connected timeout fun n => ?_
  change (MonadExcept.ofExcept s.ping : Call MemoryStore Unit).run _ = _
  rw [Call.run_ofExcept]

end MemoryStore

end FacetedGraph
