import FacetedGraph.Value.Basic

/-!
# Comparing values

Two values are the same when they are built alike, floats being compared as numbers. They are
equivalent when a query takes them for equal: an integer may then equal a float, and null equals
nothing.

## Main definitions

* `Value.same` — sameness.
* `Value.compare` — the order of booleans, numbers and texts; other pairs have none.
* `Value.equivalent` — equality as queries have it.
* `Value.isIn`, `Value.matchesAny` — membership among accepted values.
-/

namespace FacetedGraph

namespace Value

mutual

/-- Whether two values are built alike. Integers and floats differ, and so does NaN from itself. -/
def same : Value → Value → Bool
  | null, null => true
  | bool a, bool b => a == b
  | int a, int b => a == b
  | float a, float b => a.same b
  | string a, string b => a == b
  | list as, list bs => sameItems as bs
  | map as, map bs => sameFields as bs
  | node a, node b => sameNode a b
  | relationship a, relationship b => sameRelationship a b
  | path a, path b => samePath a b
  | _, _ => false
termination_by structural v => v

def sameItems : List Value → List Value → Bool
  | [], [] => true
  | a :: as, b :: bs => a.same b && sameItems as bs
  | _, _ => false
termination_by structural v => v

def sameFields : List (String × Value) → List (String × Value) → Bool
  | [], [] => true
  | (k, a) :: as, (l, b) :: bs => k == l && a.same b && sameFields as bs
  | _, _ => false
termination_by structural v => v

def sameNode : NodeOf Value → NodeOf Value → Bool
  | ⟨i, ls, ps⟩, ⟨j, ms, qs⟩ => i == j && ls == ms && sameFields ps qs
termination_by structural v => v

def sameRelationship : RelationshipOf Value → RelationshipOf Value → Bool
  | ⟨i, s, t, y, ps⟩, ⟨j, u, v, z, qs⟩ =>
    i == j && s == u && t == v && y == z && sameFields ps qs
termination_by structural v => v

def sameNodes : List (NodeOf Value) → List (NodeOf Value) → Bool
  | [], [] => true
  | a :: as, b :: bs => sameNode a b && sameNodes as bs
  | _, _ => false
termination_by structural v => v

def sameRelationships : List (RelationshipOf Value) → List (RelationshipOf Value) → Bool
  | [], [] => true
  | a :: as, b :: bs => sameRelationship a b && sameRelationships as bs
  | _, _ => false
termination_by structural v => v

def samePath : PathOf Value → PathOf Value → Bool
  | ⟨ns, rs⟩, ⟨ms, ss⟩ => sameNodes ns ms && sameRelationships rs ss
termination_by structural v => v

end

/-- The order of values: among booleans, among numbers and among texts, which go by code points.
An integer is compared with a float through the float nearest to it. -/
def compare : Value → Value → Option Ordering
  | bool a, bool b => some (Ord.compare a b)
  | int a, int b => some (Ord.compare a b)
  | float a, float b => a.compare b
  | int a, float b => (Binary64.ofInt a.toInt).compare b
  | float a, int b => a.compare (Binary64.ofInt b.toInt)
  | string a, string b => some (Ord.compare a b)
  | _, _ => none

def isNumber : Value → Bool
  | int _ | float _ => true
  | _ => false

/-- Equality as queries have it: numbers by their order, null never, the rest by sameness. -/
def equivalent (a b : Value) : Bool :=
  if a.isNull || b.isNull then false
  else if a.isNumber && b.isNumber then a.compare b == some .eq
  else a.same b

/-- Whether some accepted value is equivalent to the value. -/
def isIn (v : Value) (accepted : List Value) : Bool := accepted.any v.equivalent

/-- Whether a stored value is accepted: null never, a list when one of its items is, anything
else when it is itself. -/
def matchesAny (v : Value) (accepted : List Value) : Bool :=
  match v with
  | null => false
  | list items => items.any (·.isIn accepted)
  | scalar => scalar.isIn accepted

end Value

end FacetedGraph
