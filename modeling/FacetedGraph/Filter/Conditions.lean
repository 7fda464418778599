import FacetedGraph.Filter.Basic
import FacetedGraph.Value.Basic

/-!
# Conditions

A filter comes down to predicates that read their accepted values from parameters, and to the
bindings of these parameters. Values never occur in a predicate itself.

## Main definitions

* `Predicate`, `Predicate.parameter`.
* `Conditions` — predicates over nodes and over relationships, with bindings.
* `Filter.nodeFragments`, `Filter.relationFragments` — the predicates of a filter, each with the
  value of its parameter.
* `Filter.conditions` — the conditions of a filter.
-/

namespace FacetedGraph

/-- The end of a range that a bound checks. -/
inductive Bound
  | min
  | max
  deriving DecidableEq

/-- A condition on the node or relationship that goes by the name `var`, with the parameter that
holds what it is compared with. -/
inductive Predicate
  /-- One of the properties holds an accepted value, alone or in a list. -/
  | propertyIn (var : String) (keys : List String) (parameter : String)
  /-- One of the labels is accepted. -/
  | labelIn (var : String) (parameter : String)
  /-- The node is of the entity kind and its name or identity is accepted. -/
  | identifier (var : String) (kind : EntityKind) (parameter : String)
  /-- The property of a relationship equals an accepted value. -/
  | relationPropertyIn (var : String) (key : String) (parameter : String)
  /-- The property of a relationship, read as a number if `cast`, is on the right side of the
  bound. -/
  | relationBound (var : String) (key : String) (bound : Bound) (parameter : String)
      (cast : Bool)
  deriving DecidableEq

namespace Predicate

/-- The parameter that the predicate reads. -/
def parameter : Predicate → String
  | propertyIn _ _ p | labelIn _ p | identifier _ _ p | relationPropertyIn _ _ p
  | relationBound _ _ _ p _ => p

/-- Whether the predicate speaks of a relationship. -/
def isRelational : Predicate → Bool
  | relationPropertyIn .. | relationBound .. => true
  | _ => false

/-- The property of a relationship that the predicate reads. -/
def relationKey? : Predicate → Option String
  | relationPropertyIn _ key _ | relationBound _ key _ _ _ => some key
  | _ => none

end Predicate

/-- Predicates over the subject and over a relationship of it, with the values of their
parameters. -/
structure Conditions where
  node : List Predicate := []
  relation : List Predicate := []
  bindings : List (String × Value) := []

namespace Conditions

/-- The conditions that everything satisfies. -/
def unfiltered : Conditions := {}

def isEmpty (c : Conditions) : Bool := c.node.isEmpty && c.relation.isEmpty

/-- Whether there are predicates over a relationship. -/
def isRelational (c : Conditions) : Bool := !c.relation.isEmpty

end Conditions

/-! ## Conditions of a filter -/

/-- A predicate with the value of its parameter. -/
abbrev Fragment := Predicate × Value

namespace Filter

/-- A fragment for a list of accepted texts, unless there are none. -/
def textFragment (predicate : Predicate) (accepted : List String) : Option Fragment :=
  if accepted.isEmpty then none else some (predicate, .ofStrings accepted)

/-- The predicates over the subject: labels first, then properties, then selected entities. -/
def nodeFragments (f : Filter) (subject : String) : List Fragment :=
  (textFragment (.labelIn subject "entity_types") (f.entityKinds.map EntityKind.label)).toList ++
  NodeDimension.all.filterMap (fun d =>
    textFragment (.propertyIn subject d.keys d.parameter) (f.accepted d)) ++
  EntityKind.all.filterMap fun k =>
    textFragment (.identifier subject k k.parameter) (f.selected k)

/-- The fragments of the bounds that a range has. -/
def rangeFragments {α : Type} (relation key stem : String) (cast : Bool) (value : α → Value) :
    Option (NumericRange α) → List Fragment
  | none => []
  | some range =>
    (range.min.map fun a =>
      (Predicate.relationBound relation key .min (stem ++ "_min") cast, value a)).toList ++
    (range.max.map fun a =>
      (Predicate.relationBound relation key .max (stem ++ "_max") cast, value a)).toList

/-- The predicates over a relationship: the rating range, the accepted texts, the rank order. -/
def relationFragments (f : Filter) (relation : String) : List Fragment :=
  rangeFragments relation "rankvalue" "rating" true Value.float f.ratingRange ++
  [textFragment (.relationPropertyIn relation "rating_change" "rating_changes") f.ratingChanges,
    textFragment (.relationPropertyIn relation "rankgroup" "rank_groups") f.rankGroups,
    textFragment (.relationPropertyIn relation "rankvalue" "rank_values") f.rankValues
  ].filterMap id ++
  rangeFragments relation "rankorder" "rank_order" false Value.int f.rankOrderRange

/-- The first relationship dimension in use, by the name that callers know. -/
def firstRelationDimension (f : Filter) : String :=
  if bounded f.ratingRange then "rating_range"
  else if !f.ratingChanges.isEmpty then "rating_change"
  else if !f.rankGroups.isEmpty then "rank_group"
  else if !f.rankValues.isEmpty then "rank_value"
  else "rank_order_range"

/-- The bindings of fragments. -/
def bindingsOf (fragments : List Fragment) : Properties :=
  Fields.ofList (fragments.map fun p => (p.1.parameter, p.2))

/-- The conditions of a filter on what goes by the name `subject` and, where the query binds one,
on the relationship of a name. Without the latter a relationship dimension cannot be used. -/
def conditions (f : Filter) (subject : String) (relation : Option String) :
    Except Error Conditions :=
  let node := f.nodeFragments subject
  if f.constrainsRelationships then
    match relation with
    | none => .error (.incompatibleFilter f.firstRelationDimension "vertex-only")
    | some var =>
      let related := f.relationFragments var
      .ok {
        node := node.map Prod.fst
        relation := related.map Prod.fst
        bindings := bindingsOf (node ++ related) }
  else .ok { node := node.map Prod.fst, bindings := bindingsOf node }

end Filter

end FacetedGraph
