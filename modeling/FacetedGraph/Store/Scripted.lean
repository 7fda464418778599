import FacetedGraph.Store.Memory

/-!
# The scripted store

A store without a graph that answers queries by rules and keeps a record of them.

## Main definitions

* `ScriptedStore`, with its instance of `Store`.
-/

namespace FacetedGraph

/-- The plans of a selector get an answer. -/
structure AnswerRule where
  selector : PlanSelector
  answer : Except Error (List Row)

structure ScriptedStore where
  rules : List AnswerRule := []
  acquireError : Option Error := none
  pingError : Option Error := none
  openConnections : Nat := 0
  /-- The queries that were run, the latest first. -/
  record : List Query := []

namespace ScriptedStore

/-- The answer of the first rule that fits; without one there are no rows. -/
def answer (s : ScriptedStore) (query : Query) : Except Error (List Row) :=
  match s.rules.find? (·.selector.fits query.plan) with
  | some rule => rule.answer
  | none => .ok []

/-- The queries that were run, in order. -/
def queries (s : ScriptedStore) : List Query := s.record.reverse

/-- Fails with the error that is set, if one is. -/
def failing (error : Option Error) : Except Error Unit :=
  match error with
  | some e => .error e
  | none => .ok ()

instance : Store ScriptedStore where
  acquire := do
    MonadExcept.ofExcept (failing (← getThe ScriptedStore).acquireError)
    modify fun s => { s with openConnections := s.openConnections + 1 }
  release := modify fun s => { s with openConnections := s.openConnections - 1 }
  run query := do
    modify fun s => { s with record := query :: s.record }
    MonadExcept.ofExcept ((← getThe ScriptedStore).answer query)
  ping := do MonadExcept.ofExcept (failing (← getThe ScriptedStore).pingError)
  delay _ := 0

end ScriptedStore

end FacetedGraph
