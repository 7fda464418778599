import FacetedGraph.EntityKind

/-!
# Dimensions of nodes

The dimensions along which nodes are filtered by their properties.

## Main definitions

* `NodeDimension`, `NodeDimension.all`.
* `NodeDimension.parameter` — the parameter that holds the accepted values.
* `NodeDimension.keys` — the properties that the dimension is read from.
-/

namespace FacetedGraph

inductive NodeDimension
  | region
  | salesRegion
  | channel
  | assetClass
  | mandateStatus
  | privacyLevel
  | influenceLevel
  | pca
  | aca
  deriving DecidableEq

namespace NodeDimension

def all : List NodeDimension :=
  [region, salesRegion, channel, assetClass, mandateStatus, privacyLevel, influenceLevel, pca, aca]

/-- The parameter that holds the accepted values. -/
def parameter : NodeDimension → String
  | region => "regions"
  | salesRegion => "sales_regions"
  | channel => "channels"
  | assetClass => "asset_classes"
  | mandateStatus => "mandate_status"
  | privacyLevel => "privacy_levels"
  | influenceLevel => "level_of_influence"
  | pca => "pca"
  | aca => "aca"

/-- The properties that the dimension is read from. A node matches when one of them does. -/
def keys : NodeDimension → List String
  | region => ["region"]
  | salesRegion => ["sales_region"]
  | channel => ["channel"]
  | assetClass => ["asset_class"]
  | mandateStatus => ["mandate_status"]
  | privacyLevel => ["privacy"]
  | influenceLevel => ["level_of_influence", "influence_level", "levelOfInfluence", "influence"]
  | pca => ["pca"]
  | aca => ["aca"]

end NodeDimension

end FacetedGraph
