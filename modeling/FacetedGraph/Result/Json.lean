import FacetedGraph.Result.Basic
import FacetedGraph.Value.Json

/-!
# Results as JSON

The properties of a node or an edge stand in its object beside the fixed fields; a property named
like a fixed field takes its place. Read back, whatever is not a fixed field is a property.

## Main definitions

* `NodeView.toJson`, `NodeView.ofJson`, and so for each kind of result.
-/

namespace FacetedGraph

/-- An object of fixed fields with properties beside them. -/
def flattened (fixed : List (String × Json)) (properties : List (String × Value)) : Json :=
  .object (Fields.insertAll (Fields.ofList fixed) (Value.toJsonFields properties))

/-- The properties beside fixed fields. -/
def propertiesBeside (fixed : List String) (fields : Fields Json) : Properties :=
  Value.ofJsonFields (Fields.without fields fixed)

namespace NodeView

def toJson (n : NodeView) : Json :=
  flattened [("id", .string n.id), ("labels", .strings n.labels), ("type", .string n.type)]
    n.properties

def ofJson (j : Json) : Option NodeView := do
  let fields ← j.asObject
  return {
    id := ← Json.required fields ["id"] Json.asString
    labels := ← Json.required fields ["labels"] (Json.asList Json.asString)
    type := ← Json.required fields ["type"] Json.asString
    properties := propertiesBeside ["id", "labels", "type"] fields }

end NodeView

namespace EdgeView

def toJson (e : EdgeView) : Json :=
  flattened [("id", .string e.id), ("source", .string e.source), ("target", .string e.target),
    ("type", .string e.type)] e.properties

def ofJson (j : Json) : Option EdgeView := do
  let fields ← j.asObject
  return {
    id := ← Json.required fields ["id"] Json.asString
    source := ← Json.required fields ["source"] Json.asString
    target := ← Json.required fields ["target"] Json.asString
    type := ← Json.required fields ["type"] Json.asString
    properties := propertiesBeside ["id", "source", "target", "type"] fields }

end EdgeView

/-! ## Subgraphs -/

/-- A field that is left out where there is no value. -/
def optionalField {α : Type} (name : String) (f : α → Json) : Option α → List (String × Json)
  | none => []
  | some a => [(name, f a)]

namespace Summary

def toJson (s : Summary) : Json :=
  .record ([
    ("total_nodes", .ofNat s.totalNodes),
    ("total_edges", .ofNat s.totalEdges),
    ("node_type_counts", .ofFields Json.ofNat s.nodeTypeCounts),
    ("edge_type_counts", .ofFields Json.ofNat s.edgeTypeCounts),
    ("mandate_status_counts", .ofFields Json.ofNat s.mandateStatusCounts)] ++
    optionalField "applied_filters" Filter.toJson s.filter ++
    optionalField "query_params" Page.toJson s.page)

def ofJson (j : Json) : Option Summary := do
  let fields ← j.asObject
  return {
    totalNodes := ← Json.required fields ["total_nodes"] Json.asNat
    totalEdges := ← Json.required fields ["total_edges"] Json.asNat
    nodeTypeCounts := ← Json.required fields ["node_type_counts"] (Json.asFields Json.asNat)
    edgeTypeCounts := ← Json.required fields ["edge_type_counts"] (Json.asFields Json.asNat)
    mandateStatusCounts :=
      ← Json.required fields ["mandate_status_counts"] (Json.asFields Json.asNat)
    filter := ← Json.withDefault fields ["applied_filters"] none (Json.nullable Filter.ofJson)
    page := ← Json.withDefault fields ["query_params"] none (Json.nullable Page.ofJson) }

end Summary

namespace Subgraph

/-- The fields of a result. -/
def jsonFields (r : Subgraph) : List (String × Json) :=
  [("nodes", .ofList NodeView.toJson r.nodes), ("edges", .ofList EdgeView.toJson r.edges),
    ("metadata", r.summary.toJson)]

def toJson (r : Subgraph) : Json := .record r.jsonFields

/-- Reads a result from the fields of an object, which may have others too. -/
def ofJsonFields (fields : Fields Json) : Option Subgraph := do
  return {
    nodes := ← Json.required fields ["nodes"] (Json.asList NodeView.ofJson)
    edges := ← Json.required fields ["edges"] (Json.asList EdgeView.ofJson)
    summary := ← Json.required fields ["metadata"] Summary.ofJson }

def ofJson (j : Json) : Option Subgraph := j.asObject.bind ofJsonFields

end Subgraph

/-! ## Answers of the traversals -/

namespace RankedNode

def toJson (n : RankedNode) : Json :=
  .record [("node", n.node.toJson), ("score", .ofReal n.score)]

def ofJson (j : Json) : Option RankedNode := do
  let fields ← j.asObject
  return {
    node := ← Json.required fields ["node"] NodeView.ofJson
    score := ← Json.required fields ["score"] Json.asReal }

end RankedNode

namespace PathView

def toJson (p : PathView) : Json :=
  .record [("nodes", .strings p.nodes), ("relationships", .strings p.relationships),
    ("weight", .ofReal p.weight)]

def ofJson (j : Json) : Option PathView := do
  let fields ← j.asObject
  return {
    nodes := ← Json.required fields ["nodes"] (Json.asList Json.asString)
    relationships := ← Json.required fields ["relationships"] (Json.asList Json.asString)
    weight := ← Json.required fields ["weight"] Json.asReal }

end PathView

namespace PathsResult

def toJson (r : PathsResult) : Json :=
  .record (("paths", .ofList PathView.toJson r.paths) :: r.graph.jsonFields)

def ofJson (j : Json) : Option PathsResult := do
  let fields ← j.asObject
  return {
    paths := ← Json.required fields ["paths"] (Json.asList PathView.ofJson)
    graph := ← Subgraph.ofJsonFields fields }

end PathsResult

namespace Reach

def toJson (r : Reach) : Json :=
  .record [
    ("companies_influenced", .ofNat r.companiesInfluenced),
    ("products_influenced", .ofNat r.productsInfluenced),
    ("field_consultants_managed", .ofNat r.fieldConsultantsManaged),
    ("total_relationships", .ofNat r.totalRelationships)]

def ofJson (j : Json) : Option Reach := do
  let fields ← j.asObject
  return {
    companiesInfluenced := ← Json.required fields ["companies_influenced"] Json.asNat
    productsInfluenced := ← Json.required fields ["products_influenced"] Json.asNat
    fieldConsultantsManaged := ← Json.required fields ["field_consultants_managed"] Json.asNat
    totalRelationships := ← Json.required fields ["total_relationships"] Json.asNat }

end Reach

namespace InfluenceResult

def toJson (r : InfluenceResult) : Json :=
  .record (("consultant_metrics", .ofFields Reach.toJson r.reach) :: r.graph.jsonFields)

def ofJson (j : Json) : Option InfluenceResult := do
  let fields ← j.asObject
  return {
    graph := ← Subgraph.ofJsonFields fields
    reach := ← Json.required fields ["consultant_metrics"] (Json.asFields Reach.ofJson) }

end InfluenceResult

namespace DetailResult

def toJson (d : DetailResult) : Json :=
  .record [("node", d.node.toJson), ("relationships", .ofList EdgeView.toJson d.relationships),
    ("connected_nodes_count", .ofNat d.connectedNodes)]

def ofJson (j : Json) : Option DetailResult := do
  let fields ← j.asObject
  return {
    node := ← Json.required fields ["node"] NodeView.ofJson
    relationships := ← Json.required fields ["relationships"] (Json.asList EdgeView.ofJson)
    connectedNodes := ← Json.required fields ["connected_nodes_count"] Json.asNat }

end DetailResult

end FacetedGraph
