import FacetedGraph.Graph.Match
import FacetedGraph.Facet.Basic
import FacetedGraph.Row

/-!
# Offered options

The values that can be selected next, found around the subjects of a selection.

## Main definitions

* `Graph.scope` — the subjects and their neighbours.
* `Graph.ratings` — the ratings that touch a subject.
* `optionTexts` — the texts of stored values, in ascending order.
* `Graph.offer` — the options of a facet.
-/

namespace FacetedGraph

/-- The type of the relationships that carry ratings. -/
def ratingType : String := "RATES"

/-- The texts of stored values, lists taken apart, in ascending order and without the empty one. -/
def optionTexts (stored : List Value) : List String :=
  ascending ((stored.flatMap Value.elements).filterMap Value.queryString |>.filter (· ≠ ""))

def textRow (s : String) : Row := ⟨[("value", .string s)]⟩

/-- The name of a node as text. -/
def nameText (n : Node) : Option String := (n.get? "name").bind Value.queryString

def entityRow (n : Node) : Row where
  columns := [("id", .string n.id.text), ("name", ((nameText n).map Value.string).getD .null)]

/-- The order of names, where a missing one comes last. -/
def compareNames : Option String → Option String → Ordering
  | some a, some b => compare a b
  | some _, none => .lt
  | none, some _ => .gt
  | none, none => .eq

/-- By name, and of one name by identity. -/
def namedBefore (a b : Node) : Bool :=
  ((compareNames (nameText a) (nameText b)).then (compare a.id.number b.id.number)).isLE

namespace Graph

/-- The subjects and their neighbours, in ascending order of identities. -/
def scope (g : Graph) (subjects : List Node) : List Node :=
  (ascendingBy NodeId.number (subjects.flatMap fun n => n.id :: g.neighbors n.id)).filterMap g.node?

/-- The ratings that touch a subject, in ascending order of identities. -/
def ratings (g : Graph) (subjects : List Node) : List Relationship :=
  ascendingBy (fun r => r.id.number)
    ((subjects.flatMap fun n => g.incident n.id).filter (·.type == ratingType))

/-- The options of a facet. -/
def offer (g : Graph) (c : Conditions) (source : FacetSource) : Except Error (List Row) := do
  let subjects ← g.subjects c
  match source with
  | .rating key =>
    return (optionTexts ((g.ratings subjects).filterMap (·.get? key))).map textRow
  | .property d =>
    return (optionTexts ((g.scope subjects).flatMap fun n => d.keys.filterMap n.get?)).map textRow
  | .entity kind =>
    return (((g.scope subjects).filter (·.hasLabel kind.label)).mergeSort namedBefore).map entityRow

end Graph

end FacetedGraph
