import FacetedGraph.Client
import FacetedGraph.Proofs.Store.Trip

/-!
# Calls that leave their stores alone

An operation of the engine gets to a store by trips only. Where trips over two stores have the same
outcomes and leave both as they were, so does every operation. With one store in both places this
says that no operation changes it.

## Main definitions

* `Call.Alike` — two calls have one outcome and leave their stores alone.
* `SameTrips` — two stores whose trips are alike.

## Main statements

* `Call.Alike.bind`, `Call.Alike.mapM` — alike calls one after the other.
* `Store.connected_alike` — trips over connections that are taken and given back.
* `Engine.call_alike` — the operations of the engine.
-/

namespace FacetedGraph

variable {σ τ α β : Type} {s : σ} {t : τ}

def Call.Alike (x : Call σ α) (s : σ) (y : Call τ α) (t : τ) : Prop :=
  ∃ outcome, x.run s = (outcome, s) ∧ y.run t = (outcome, t)

namespace Call.Alike

theorem ofExcept (x : Except Error α) :
    Alike (MonadExcept.ofExcept x) s (MonadExcept.ofExcept x) t :=
  ⟨x, run_ofExcept x s, run_ofExcept x t⟩

theorem pure (a : α) : Alike (Pure.pure a) s (Pure.pure a) t := ofExcept (.ok a)

theorem throw (e : Error) :
    Alike (throw e : Call σ α) s (throw e : Call τ α) t := ofExcept (.error e)

theorem bind {x : Call σ α} {y : Call τ α} {f : α → Call σ β} {g : α → Call τ β}
    (hx : x.Alike s y t) (hf : ∀ a, (f a).Alike s (g a) t) : (x >>= f).Alike s (y >>= g) t := by
  obtain ⟨outcome, hxs, hyt⟩ := hx
  cases outcome with
  | error e => exact ⟨.error e, run_bind_error hxs f, run_bind_error hyt g⟩
  | ok a =>
    obtain ⟨outcome, hfs, hgt⟩ := hf a
    exact ⟨outcome, by rw [run_bind_ok hxs, hfs], by rw [run_bind_ok hyt, hgt]⟩

theorem map {x : Call σ α} {y : Call τ α} (hx : x.Alike s y t) (f : α → β) :
    (f <$> x).Alike s (f <$> y) t :=
  hx.bind fun a => pure (f a)

/-- A failure that is taken as a value fails nothing. -/
theorem lift {x : Call σ α} {y : Call τ α} (hx : x.Alike s y t) :
    Alike (ExceptT.lift x.run) s (ExceptT.lift y.run) t := by
  obtain ⟨outcome, hxs, hyt⟩ := hx
  exact ⟨.ok outcome, run_lift hxs, run_lift hyt⟩

theorem mapM {f : α → Call σ β} {g : α → Call τ β} (hf : ∀ a, (f a).Alike s (g a) t)
    (items : List α) : (items.mapM f).Alike s (items.mapM g) t := by
  induction items with
  | nil => exact pure []
  | cons a rest ih =>
    rw [List.mapM_cons, List.mapM_cons]
    exact (hf a).bind fun b => ih.bind fun bs => pure (b :: bs)

theorem ite {c : Prop} [Decidable c] {x x' : Call σ α} {y y' : Call τ α} (hx : x.Alike s y t)
    (hx' : x'.Alike s y' t) : (if c then x else x').Alike s (if c then y else y') t := by
  split
  · exact hx
  · exact hx'

end Call.Alike

/-! ## Trips -/

variable [Store σ] [Store τ]

namespace Store

theorem within_alike (hdelay : delay s = delay t) {x : Call σ α} {y : Call τ α}
    (hx : x.Alike s y t) (timeout : Option Nat) :
    (within timeout x).Alike s (within timeout y) t := by
  cases timeout with
  | none => exact hx
  | some limit =>
    have hs : (getThe σ : Call σ σ).run s = (.ok s, s) := rfl
    have ht : (getThe τ : Call τ τ).run t = (.ok t, t) := rfl
    have hwithin : Call.Alike (if limit < delay s then throw (.storeTimeout (some limit)) else x) s
        (if limit < delay t then throw (.storeTimeout (some limit)) else y) t := by
      rw [hdelay]
      exact (Call.Alike.throw _).ite hx
    obtain ⟨outcome, hxs, hyt⟩ := hwithin
    refine ⟨outcome, ?_, ?_⟩
    · rw [within, Call.run_bind_ok hs, hxs]
    · rw [within, Call.run_bind_ok ht, hyt]

/-- A connection that is given back after the trip leaves no trace. -/
theorem connected_alike {s' : σ} {t' : τ} {x : Call σ α} {y : Call τ α}
    (hs : (acquire : Call σ Unit).run s = (.ok (), s'))
    (hs' : (release : StateM σ Unit) s' = ((), s))
    (ht : (acquire : Call τ Unit).run t = (.ok (), t'))
    (ht' : (release : StateM τ Unit) t' = ((), t))
    (hx : x.Alike s' y t') : (connected x).Alike s (connected y) t := by
  obtain ⟨outcome, hxs, hyt⟩ := hx
  have hreleaseS : (ExceptT.lift release : Call σ Unit).run s' = (.ok (), s) := by
    change (Except.ok ((release : StateM σ Unit) s').1, ((release : StateM σ Unit) s').2) = _
    rw [hs']
  have hreleaseT : (ExceptT.lift release : Call τ Unit).run t' = (.ok (), t) := by
    change (Except.ok ((release : StateM τ Unit) t').1, ((release : StateM τ Unit) t').2) = _
    rw [ht']
  refine ⟨outcome, ?_, ?_⟩
  · rw [connected, Call.run_bind_ok hs, Call.run_bind_ok (Call.run_lift hxs),
      Call.run_bind_ok hreleaseS, Call.run_ofExcept]
  · rw [connected, Call.run_bind_ok ht, Call.run_bind_ok (Call.run_lift hyt),
      Call.run_bind_ok hreleaseT, Call.run_ofExcept]

theorem connected_alike_error {e : Error} (x : Call σ α) (y : Call τ α)
    (hs : (acquire : Call σ Unit).run s = (.error e, s))
    (ht : (acquire : Call τ Unit).run t = (.error e, t)) :
    (connected x).Alike s (connected y) t :=
  ⟨.error e, Call.run_bind_error hs _, Call.run_bind_error ht _⟩

end Store

/-- Over two stores queries and mere round trips are alike. -/
structure SameTrips (s : σ) (t : τ) : Prop where
  execute : ∀ timeout query,
    (Store.execute timeout query).Alike s (Store.execute timeout query) t
  reachable : ∀ timeout, (Store.checkReachable timeout).Alike s (Store.checkReachable timeout) t

/-! ## Operations -/

namespace Engine

open Call

variable (h : SameTrips s t) (e : Engine)

include h

theorem run_alike (plan : Plan) : (e.run plan).Alike s (e.run plan) t :=
  (Alike.ofExcept plan.query).bind fun query => h.execute e.timeout query

theorem fetch_alike (request : FetchRequest) : (e.fetch request).Alike s (e.fetch request) t :=
  (Alike.ofExcept (fetchPlan request)).bind fun plan =>
    (run_alike h e plan).bind fun _ => .pure _

/-- A facet whose query fails does not keep the other facets from being asked for. -/
theorem options_alike (selection : Filter) :
    (e.options selection).Alike s (e.options selection) t := by
  refine (h.reachable e.timeout).bind fun _ => ?_
  refine (Alike.ofExcept (facetQueries selection)).bind fun queries => ?_
  refine (Alike.mapM (fun p => ?_) queries).bind fun outcomes => .ofExcept _
  exact (h.execute e.timeout p.2).lift.bind fun outcome => .pure _

theorem expand_alike (seeds : List NodeId) (depth : Nat) (page : Page) :
    (e.expand seeds depth page).Alike s (e.expand seeds depth page) t :=
  (Alike.throw _).ite ((run_alike h e _).bind fun _ => .pure _)

theorem paths_alike (sources targets : List NodeId) (maxDepth : Nat) :
    (e.paths sources targets maxDepth).Alike s (e.paths sources targets maxDepth) t := by
  refine (Alike.ofExcept _).bind fun _ => (Alike.pure _).ite ?_
  refine (run_alike h e _).bind fun rows => ?_
  exact (Alike.ofExcept (rows.mapM pathOfRow)).bind fun _ => .pure _

theorem recommend_alike (seed : NodeId) (recommender : Recommender) (limit : Option Nat) :
    (e.recommend seed recommender limit).Alike s (e.recommend seed recommender limit) t :=
  (run_alike h e _).bind fun _ => .ofExcept _

theorem influence_alike (consultants : List NodeId) :
    (e.influence consultants).Alike s (e.influence consultants) t := by
  refine (Alike.throw _).ite ((run_alike h e _).bind fun rows => ?_)
  exact (Alike.ofExcept (rows.mapM reachOfRow)).bind fun _ => .pure _

theorem detail_alike (node : NodeId) : (e.detail node).Alike s (e.detail node) t := by
  refine (run_alike h e _).bind fun rows => ?_
  cases rows with
  | nil => exact .pure none
  | cons row _ => exact (Alike.ofExcept (detailOfRow row)).bind fun _ => .pure _

theorem call_alike (c : EngineCall) : (e.call c).Alike s (e.call c) t := by
  cases c with
  | fetch request => exact (fetch_alike h e request).map _
  | options selection => exact (options_alike h e selection).map _
  | expand seeds depth page => exact (expand_alike h e seeds depth page).map _
  | paths sources targets maxDepth => exact (paths_alike h e sources targets maxDepth).map _
  | recommend seed recommender limit => exact (recommend_alike h e seed recommender limit).map _
  | influence consultants => exact (influence_alike h e consultants).map _
  | detail node => exact (detail_alike h e node).map _
  | ping => exact (h.reachable e.timeout).map _
  | execute query => exact (h.execute e.timeout query).map _

end Engine

end FacetedGraph
