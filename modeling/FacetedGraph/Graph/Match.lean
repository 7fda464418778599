import FacetedGraph.Filter.Conditions
import FacetedGraph.Graph.Basic
import FacetedGraph.Value.Compare
import FacetedGraph.Value.Text

/-!
# Matching

Whether nodes and relationships satisfy conditions. Predicates are tried in order
up to the first that fails. A parameter without a binding, or a predicate in the wrong place, is
found only when the predicate is tried.

## Main definitions

* `Conditions.matchesNode`, `Conditions.matchesRelationship`.
* `Graph.subjects` — the nodes that satisfy conditions.
-/

namespace FacetedGraph

namespace Predicate

/-- The value bound to a parameter. -/
def binding (bindings : Properties) (parameter : String) : Except Error Value :=
  match Fields.get? bindings parameter with
  | some v => .ok v
  | none => .error (.queryCompilation (.unbound parameter))

/-- Whether a node is of the kind and goes by an accepted name or identity. -/
def identifies (kind : EntityKind) (accepted : List Value) (n : Node) : Bool :=
  n.hasLabel kind.label &&
    ((n.get? "name").any (·.isIn accepted) || (Value.string n.id.text).isIn accepted)

/-- Whether a node satisfies a predicate. -/
def matchesNode (bindings : Properties) (n : Node) (p : Predicate) : Except Error Bool := do
  let accepted := (← binding bindings p.parameter).elements
  match p with
  | propertyIn _ keys _ => return keys.any fun k => (n.get? k).any (·.matchesAny accepted)
  | labelIn _ _ => return n.labels.any fun l => (Value.string l).isIn accepted
  | identifier _ kind _ => return identifies kind accepted n
  | relationPropertyIn .. | relationBound .. =>
    .error (.queryCompilation .relationPredicateOnNode)

/-- Whether a stored value is on the right side of a bound. What cannot be compared is not. -/
def withinBound (bound : Bound) (limit stored : Value) : Bool :=
  match bound, stored.compare limit with
  | .min, some .gt | .min, some .eq | .max, some .lt | .max, some .eq => true
  | _, _ => false

/-- Whether a relationship satisfies a predicate. -/
def matchesRelationship (bindings : Properties) (r : Relationship) (p : Predicate) :
    Except Error Bool := do
  match p with
  | relationPropertyIn _ key parameter =>
    let accepted := (← binding bindings parameter).elements
    return (r.get? key).any (·.isIn accepted)
  | relationBound _ key bound parameter cast =>
    let limit ← binding bindings parameter
    let stored := if cast then (r.get? key).bind fun v => v.toFloat.map .float else r.get? key
    return stored.any (withinBound bound limit)
  | propertyIn .. | labelIn .. | identifier .. =>
    .error (.queryCompilation .nodePredicateOnRelation)

end Predicate

namespace Conditions

def matchesNode (c : Conditions) (n : Node) : Except Error Bool :=
  c.node.allM (Predicate.matchesNode c.bindings n)

def matchesRelationship (c : Conditions) (r : Relationship) : Except Error Bool :=
  c.relation.allM (Predicate.matchesRelationship c.bindings r)

end Conditions

/-- The nodes that satisfy the predicates over nodes, in ascending order. -/
def Graph.subjects (g : Graph) (c : Conditions) : Except Error (List Node) :=
  g.nodeList.filterM c.matchesNode

end FacetedGraph
