import FacetedGraph.Filter.Dimension

/-!
# Facets

A facet is a respect in which a caller is offered what to select next, and knows where the offered
values are found in the graph.

## Main definitions

* `Facet`, `Facet.all`.
* `Facet.source` — where the values of a facet live.
* `staticRegions` — the regions, which are offered always.
-/

namespace FacetedGraph

/-- The regions are the same for every store. -/
def staticRegions : List String := ["NAI", "EMEA", "APAC"]

/-- Where the values of a facet live: in a property of nodes, in a property of the ratings of the
subjects, or in the nodes of an entity kind. -/
inductive FacetSource
  | property (d : NodeDimension)
  | rating (key : String)
  | entity (k : EntityKind)
  deriving DecidableEq

inductive Facet
  | salesRegions
  | channels
  | assetClasses
  | mandateStatus
  | privacyLevels
  | levelOfInfluence
  | pcaOptions
  | acaOptions
  | ratingChanges
  | rankGroups
  | rankValues
  | consultants
  | companies
  | products
  | fieldConsultants
  deriving DecidableEq

namespace Facet

/-- The facets in the order in which they are resolved. -/
def all : List Facet :=
  [salesRegions, channels, assetClasses, mandateStatus, privacyLevels, levelOfInfluence,
    pcaOptions, acaOptions, ratingChanges, rankGroups, rankValues, consultants, companies,
    products, fieldConsultants]

def source : Facet → FacetSource
  | salesRegions => .property .salesRegion
  | channels => .property .channel
  | assetClasses => .property .assetClass
  | mandateStatus => .property .mandateStatus
  | privacyLevels => .property .privacyLevel
  | levelOfInfluence => .property .influenceLevel
  | pcaOptions => .property .pca
  | acaOptions => .property .aca
  | ratingChanges => .rating "rating_change"
  | rankGroups => .rating "rankgroup"
  | rankValues => .rating "rankvalue"
  | consultants => .entity .consultant
  | companies => .entity .company
  | products => .entity .product
  | fieldConsultants => .entity .fieldConsultant

def name : Facet → String
  | salesRegions => "sales_regions"
  | channels => "channels"
  | assetClasses => "asset_classes"
  | mandateStatus => "mandate_status"
  | privacyLevels => "privacy_levels"
  | levelOfInfluence => "level_of_influence"
  | pcaOptions => "pca_options"
  | acaOptions => "aca_options"
  | ratingChanges => "rating_changes"
  | rankGroups => "rank_groups"
  | rankValues => "rank_values"
  | consultants => "consultants"
  | companies => "companies"
  | products => "products"
  | fieldConsultants => "field_consultants"

/-- The facet of a name. -/
def ofName? (s : String) : Option Facet := all.find? fun f => f.name == s

def toJson (f : Facet) : Json := .string f.name

def ofJson (j : Json) : Option Facet := j.asString.bind ofName?

end Facet

end FacetedGraph
