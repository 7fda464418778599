import FacetedGraph.Json.Decode

/-!
# Configuration

Which store an engine uses and how long a query may take.

## Main definitions

* `Configuration`, `Configuration.queryTimeout`.
* `Configuration.toJson`, `Configuration.ofJson`.
-/

namespace FacetedGraph

/-- The kinds of store. -/
inductive Backend
  | memory
  deriving DecidableEq

namespace Backend

def kind : Backend → String
  | memory => "memory"

def ofKind? (s : String) : Option Backend := if s = memory.kind then some memory else none

def toJson (b : Backend) : Json := .record [("kind", .string b.kind)]

/-- An object whose field `kind` names the backend, or the list of that name alone. -/
def ofJson : Json → Option Backend
  | .object fields => Json.required fields ["kind"] fun k => k.asString.bind ofKind?
  | .array [k] => k.asString.bind ofKind?
  | _ => none

end Backend

structure Configuration where
  store : Backend := .memory
  /-- The milliseconds that a query may take; zero is without limit. -/
  queryTimeoutMs : Nat := 30000
  deriving DecidableEq

namespace Configuration

/-- The limit on the time of a query, if there is one. -/
def queryTimeout (c : Configuration) : Option Nat :=
  if c.queryTimeoutMs = 0 then none else some c.queryTimeoutMs

def toJson (c : Configuration) : Json :=
  .record [("store", c.store.toJson), ("query_timeout_ms", .ofNat c.queryTimeoutMs)]

/-- Reads a configuration from fields, given how a number of milliseconds is read. -/
def ofFields (number : Json → Option Nat) (fields : Fields Json) : Option Configuration := do
  return {
    store := ← Json.withDefault fields ["store"] .memory Backend.ofJson
    queryTimeoutMs := ← Json.withDefault fields ["query_timeout_ms"] 30000 number }

def ofJson (j : Json) : Option Configuration := j.asObject.bind (ofFields Json.asNat)

end Configuration

end FacetedGraph
