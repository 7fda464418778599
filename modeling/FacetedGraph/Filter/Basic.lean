import FacetedGraph.Filter.Dimension
import FacetedGraph.Binary64.Basic

/-!
# Filters

A filter constrains the subjects of a query dimension by dimension. A dimension without
values constrains nothing, a dimension with values accepts each of them, and all dimensions have
to accept. Rating and rank dimensions speak of relationships, all others of nodes.

## Main definitions

* `NumericRange` — inclusive bounds, each of which may be absent.
* `Filter`, `Filter.accepted`, `Filter.selected`.
* `Filter.constrainsRelationships`, `Filter.constrainsNodes`.
* `Filter.nodeScoped` — the filter without its relationship dimensions.
-/

namespace FacetedGraph

/-- An inclusive range; either bound may be absent. -/
structure NumericRange (α : Type) where
  min : Option α := none
  max : Option α := none
  deriving DecidableEq

def NumericRange.isUnbounded {α : Type} (r : NumericRange α) : Bool :=
  r.min.isNone && r.max.isNone

structure Filter where
  regions : List String := []
  salesRegions : List String := []
  channels : List String := []
  entityKinds : List EntityKind := []
  companies : List String := []
  consultants : List String := []
  products : List String := []
  fieldConsultants : List String := []
  assetClasses : List String := []
  mandateStatuses : List String := []
  privacyLevels : List String := []
  influenceLevels : List String := []
  pca : List String := []
  aca : List String := []
  ratingRange : Option (NumericRange Binary64) := none
  ratingChanges : List String := []
  rankGroups : List String := []
  rankValues : List String := []
  rankOrderRange : Option (NumericRange Int64) := none
  deriving DecidableEq

namespace Filter

/-- The accepted values of a dimension. -/
def accepted (f : Filter) : NodeDimension → List String
  | .region => f.regions
  | .salesRegion => f.salesRegions
  | .channel => f.channels
  | .assetClass => f.assetClasses
  | .mandateStatus => f.mandateStatuses
  | .privacyLevel => f.privacyLevels
  | .influenceLevel => f.influenceLevels
  | .pca => f.pca
  | .aca => f.aca

/-- The names or identities selected of an entity kind. -/
def selected (f : Filter) : EntityKind → List String
  | .consultant => f.consultants
  | .fieldConsultant => f.fieldConsultants
  | .company => f.companies
  | .product => f.products

/-- Whether a range is given and has a bound. -/
def bounded {α : Type} : Option (NumericRange α) → Bool
  | some r => !r.isUnbounded
  | none => false

/-- Whether a rating or rank dimension is in use. -/
def constrainsRelationships (f : Filter) : Bool :=
  bounded f.ratingRange || bounded f.rankOrderRange || !f.ratingChanges.isEmpty ||
    !f.rankGroups.isEmpty || !f.rankValues.isEmpty

/-- Whether a dimension of nodes is in use. -/
def constrainsNodes (f : Filter) : Bool :=
  !f.entityKinds.isEmpty || EntityKind.all.any (fun k => !(f.selected k).isEmpty) ||
    NodeDimension.all.any fun d => !(f.accepted d).isEmpty

def isEmpty (f : Filter) : Bool := !f.constrainsNodes && !f.constrainsRelationships

/-- The filter without its relationship dimensions. -/
def nodeScoped (f : Filter) : Filter :=
  { f with
    ratingRange := none
    ratingChanges := []
    rankGroups := []
    rankValues := []
    rankOrderRange := none }

end Filter

end FacetedGraph
