import FacetedGraph.Filter.Basic
import FacetedGraph.Page

/-!
# Requests

A request for a filtered fetch: the filter, the page and how much of the surroundings of each
subject is wanted.

## Main definitions

* `Neighborhood`.
* `FetchRequest`, `FetchRequest.page`.
* `Filter.toJson`, `Filter.ofJson`, `FetchRequest.toJson`, `FetchRequest.ofJson` — the JSON
  form, in which every field may be missing and some go under a second name.
-/

namespace FacetedGraph

/-- How much of the surroundings of each subject a fetch gives back: nothing, the neighbours with
the relationships to them, or one hop more. -/
inductive Neighborhood
  | subject
  | oneHop
  | twoHop
  deriving DecidableEq

namespace Neighborhood

def all : List Neighborhood := [subject, oneHop, twoHop]

def name : Neighborhood → String
  | subject => "subject"
  | oneHop => "one_hop"
  | twoHop => "two_hop"

def toJson (n : Neighborhood) : Json := .string n.name

def ofJson (j : Json) : Option Neighborhood := j.asName (all.map fun n => (n.name, n))

end Neighborhood

structure FetchRequest where
  filter : Filter := {}
  limit : Option Nat := none
  offset : Option Nat := none
  neighborhood : Neighborhood := .subject
  deriving DecidableEq

namespace FetchRequest

def page (q : FetchRequest) : Page := .ofRequest q.limit q.offset

def withPage (q : FetchRequest) (limit offset : Nat) : FetchRequest :=
  { q with limit := some limit, offset := some offset }

def withNeighborhood (q : FetchRequest) (n : Neighborhood) : FetchRequest :=
  { q with neighborhood := n }

end FetchRequest

/-! ## JSON form -/

namespace NumericRange

variable {α : Type}

def toJson (f : α → Json) (r : NumericRange α) : Json :=
  .record [("min", .ofOption f r.min), ("max", .ofOption f r.max)]

def ofJson (f : Json → Option α) (j : Json) : Option (NumericRange α) := do
  let fields ← j.asObject
  return {
    min := ← Json.withDefault fields ["min"] none (Json.nullable f)
    max := ← Json.withDefault fields ["max"] none (Json.nullable f) }

end NumericRange

namespace Filter

def ratingRangeToJson (r : NumericRange Binary64) : Json := r.toJson Json.ofReal

def rankOrderRangeToJson (r : NumericRange Int64) : Json := r.toJson fun n => .int n.toInt

def toJson (f : Filter) : Json :=
  .record [
    ("regions", .strings f.regions),
    ("sales_regions", .strings f.salesRegions),
    ("channels", .strings f.channels),
    ("entity_types", .ofList EntityKind.toJson f.entityKinds),
    ("companies", .strings f.companies),
    ("consultants", .strings f.consultants),
    ("products", .strings f.products),
    ("field_consultants", .strings f.fieldConsultants),
    ("asset_classes", .strings f.assetClasses),
    ("mandate_statuses", .strings f.mandateStatuses),
    ("privacy_levels", .strings f.privacyLevels),
    ("influence_levels", .strings f.influenceLevels),
    ("pca", .strings f.pca),
    ("aca", .strings f.aca),
    ("rating_range", .ofOption ratingRangeToJson f.ratingRange),
    ("rating_changes", .strings f.ratingChanges),
    ("rank_groups", .strings f.rankGroups),
    ("rank_values", .strings f.rankValues),
    ("rank_order_range", .ofOption rankOrderRangeToJson f.rankOrderRange)]

/-- A list of texts that may be missing. -/
def textsOfJson (fields : Fields Json) (names : List String) : Option (List String) :=
  Json.withDefault fields names [] (Json.asList Json.asString)

def ofJson (j : Json) : Option Filter := do
  let fields ← j.asObject
  return {
    regions := ← textsOfJson fields ["regions"]
    salesRegions := ← textsOfJson fields ["sales_regions"]
    channels := ← textsOfJson fields ["channels"]
    entityKinds :=
      ← Json.withDefault fields ["entity_types", "node_types"] [] (Json.asList EntityKind.ofJson)
    companies := ← textsOfJson fields ["companies", "company"]
    consultants := ← textsOfJson fields ["consultants", "consultant"]
    products := ← textsOfJson fields ["products", "product"]
    fieldConsultants := ← textsOfJson fields ["field_consultants", "field_consultant"]
    assetClasses := ← textsOfJson fields ["asset_classes"]
    mandateStatuses := ← textsOfJson fields ["mandate_statuses", "mandate_status"]
    privacyLevels := ← textsOfJson fields ["privacy_levels"]
    influenceLevels := ← textsOfJson fields ["influence_levels", "level_of_influence"]
    pca := ← textsOfJson fields ["pca"]
    aca := ← textsOfJson fields ["aca"]
    ratingRange := ← Json.withDefault fields ["rating_range"] none
      (Json.nullable (NumericRange.ofJson Json.asReal))
    ratingChanges := ← textsOfJson fields ["rating_changes", "rating_change"]
    rankGroups := ← textsOfJson fields ["rank_groups", "rank_group"]
    rankValues := ← textsOfJson fields ["rank_values", "rank_value"]
    rankOrderRange := ← Json.withDefault fields ["rank_order_range"] none
      (Json.nullable (NumericRange.ofJson Json.asInt64)) }

end Filter

namespace FetchRequest

def toJson (q : FetchRequest) : Json :=
  .record [
    ("filters", q.filter.toJson),
    ("limit", .ofOption Json.ofNat q.limit),
    ("offset", .ofOption Json.ofNat q.offset),
    ("neighborhood", q.neighborhood.toJson)]

def ofJson (j : Json) : Option FetchRequest := do
  let fields ← j.asObject
  return {
    filter := ← Json.withDefault fields ["filters"] {} Filter.ofJson
    limit := ← Json.withDefault fields ["limit"] none (Json.nullable Json.asNat)
    offset := ← Json.withDefault fields ["offset"] none (Json.nullable Json.asNat)
    neighborhood := ← Json.withDefault fields ["neighborhood"] .subject Neighborhood.ofJson }

end FetchRequest

end FacetedGraph
