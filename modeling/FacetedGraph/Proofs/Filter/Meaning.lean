import FacetedGraph.Filter.Basic
import FacetedGraph.Value.Compare

/-!
# What filters mean

A filter read dimension by dimension, without predicates and parameters: which nodes it admits,
and which relationships. A dimension without values admits everything.

## Main definitions

* `Value.Holds` — a stored value is a text, or a list with it.
* `Filter.Admits` — the dimensions of nodes.
* `NumericRange.Contains`, `Filter.AdmitsRelationship` — the rating and rank dimensions.
* `Filter.Dimensionwise` — filters whose texts about nodes stand in a relation.
* `Filter.SameChoices` — filters that differ in the order and repetition of values only.
* `Filter.Refines` — every dimension of nodes is at least as narrow.

## Main statements

* `Filter.admits_iff`, `Filter.dimensionwise_iff` — the dimensions of one sort told together.
* `Filter.Refines.admits` — a refined filter admits less.
* `Filter.SameChoices.admits_iff` — only which values a dimension has matters.
-/

namespace FacetedGraph

def Value.Holds (v : Value) (s : String) : Prop :=
  v = .string s ∨ ∃ items, v = .list items ∧ .string s ∈ items

namespace Node

/-- One of the properties holds an accepted text, if there are any. -/
def HoldsAmong (n : Node) (keys accepted : List String) : Prop :=
  accepted = [] ∨ ∃ key ∈ keys, ∃ v, n.get? key = some v ∧ ∃ s ∈ accepted, v.Holds s

/-- The node has the label and goes by a selected name or identity, if there are any. -/
def GoesByAmong (n : Node) (label : String) (selected : List String) : Prop :=
  selected = [] ∨
    label ∈ n.labels ∧ ∃ s ∈ selected, n.get? "name" = some (.string s) ∨ n.id.text = s

end Node

structure Filter.Admits (f : Filter) (n : Node) : Prop where
  kinds : f.entityKinds = [] ∨ ∃ k ∈ f.entityKinds, k.label ∈ n.labels
  regions : n.HoldsAmong ["region"] f.regions
  salesRegions : n.HoldsAmong ["sales_region"] f.salesRegions
  channels : n.HoldsAmong ["channel"] f.channels
  assetClasses : n.HoldsAmong ["asset_class"] f.assetClasses
  mandateStatuses : n.HoldsAmong ["mandate_status"] f.mandateStatuses
  privacyLevels : n.HoldsAmong ["privacy"] f.privacyLevels
  influenceLevels : n.HoldsAmong
    ["level_of_influence", "influence_level", "levelOfInfluence", "influence"] f.influenceLevels
  pca : n.HoldsAmong ["pca"] f.pca
  aca : n.HoldsAmong ["aca"] f.aca
  consultants : n.GoesByAmong "CONSULTANT" f.consultants
  fieldConsultants : n.GoesByAmong "FIELD_CONSULTANT" f.fieldConsultants
  companies : n.GoesByAmong "COMPANY" f.companies
  products : n.GoesByAmong "PRODUCT" f.products

/-- Within inclusive bounds. What cannot be compared with a bound is outside. -/
structure NumericRange.Contains {α : Type} (range : NumericRange α) (value : α → Value)
    (v : Value) : Prop where
  min : ∀ a, range.min = some a → v.compare (value a) = some .gt ∨ v.compare (value a) = some .eq
  max : ∀ a, range.max = some a → v.compare (value a) = some .lt ∨ v.compare (value a) = some .eq

/-- A property is one of the accepted texts, if there are any. -/
def Relationship.IsAmong (r : Relationship) (key : String) (accepted : List String) : Prop :=
  accepted = [] ∨ ∃ s ∈ accepted, r.get? key = some (.string s)

structure Filter.AdmitsRelationship (f : Filter) (r : Relationship) : Prop where
  rating : ∀ range, f.ratingRange = some range → range.isUnbounded = false →
    ∃ v x, r.get? "rankvalue" = some v ∧ v.toFloat = some x ∧ range.Contains .float (.float x)
  change : r.IsAmong "rating_change" f.ratingChanges
  group : r.IsAmong "rankgroup" f.rankGroups
  rank : r.IsAmong "rankvalue" f.rankValues
  order : ∀ range, f.rankOrderRange = some range → range.isUnbounded = false →
    ∃ v, r.get? "rankorder" = some v ∧ range.Contains .int v

/-! ## Filters side by side -/

/-- The texts that a filter has for each dimension of nodes stand in a relation to those of
another. -/
structure Filter.Dimensionwise (R : List String → List String → Prop) (f g : Filter) : Prop where
  regions : R f.regions g.regions
  salesRegions : R f.salesRegions g.salesRegions
  channels : R f.channels g.channels
  assetClasses : R f.assetClasses g.assetClasses
  mandateStatuses : R f.mandateStatuses g.mandateStatuses
  privacyLevels : R f.privacyLevels g.privacyLevels
  influenceLevels : R f.influenceLevels g.influenceLevels
  pca : R f.pca g.pca
  aca : R f.aca g.aca
  consultants : R f.consultants g.consultants
  fieldConsultants : R f.fieldConsultants g.fieldConsultants
  companies : R f.companies g.companies
  products : R f.products g.products

/-- Every dimension of nodes has the same values, in whatever order and however often. -/
structure Filter.SameChoices (f g : Filter) : Prop where
  kinds : ∀ k, k ∈ f.entityKinds ↔ k ∈ g.entityKinds
  texts : Filter.Dimensionwise (fun as bs => ∀ s, s ∈ as ↔ s ∈ bs) f g

/-- The values of a dimension leave less than others do. No values at all leave everything. -/
def Narrower {α : Type} (values others : List α) : Prop :=
  others = [] ∨ values ≠ [] ∧ values ⊆ others

/-- The rating and rank dimensions may be anything. -/
structure Filter.Refines (b a : Filter) : Prop where
  kinds : Narrower b.entityKinds a.entityKinds
  texts : Filter.Dimensionwise Narrower b a

namespace Filter

variable {f g : Filter} {n : Node}

theorem Admits.properties (h : f.Admits n) :
    ∀ d : NodeDimension, n.HoldsAmong d.keys (f.accepted d)
  | .region => h.regions
  | .salesRegion => h.salesRegions
  | .channel => h.channels
  | .assetClass => h.assetClasses
  | .mandateStatus => h.mandateStatuses
  | .privacyLevel => h.privacyLevels
  | .influenceLevel => h.influenceLevels
  | .pca => h.pca
  | .aca => h.aca

theorem Admits.entities (h : f.Admits n) : ∀ k : EntityKind, n.GoesByAmong k.label (f.selected k)
  | .consultant => h.consultants
  | .fieldConsultant => h.fieldConsultants
  | .company => h.companies
  | .product => h.products

theorem admits_iff :
    f.Admits n ↔ (f.entityKinds = [] ∨ ∃ k ∈ f.entityKinds, k.label ∈ n.labels) ∧
      (∀ d, n.HoldsAmong d.keys (f.accepted d)) ∧ ∀ k, n.GoesByAmong k.label (f.selected k) := by
  constructor
  · intro h
    exact ⟨h.kinds, h.properties, h.entities⟩
  · rintro ⟨hkinds, hproperties, hentities⟩
    exact ⟨hkinds, hproperties .region, hproperties .salesRegion, hproperties .channel,
      hproperties .assetClass, hproperties .mandateStatus, hproperties .privacyLevel,
      hproperties .influenceLevel, hproperties .pca, hproperties .aca, hentities .consultant,
      hentities .fieldConsultant, hentities .company, hentities .product⟩

section Dimensionwise

variable {R : List String → List String → Prop}

theorem Dimensionwise.accepted (h : Dimensionwise R f g) :
    ∀ d : NodeDimension, R (f.accepted d) (g.accepted d)
  | .region => h.regions
  | .salesRegion => h.salesRegions
  | .channel => h.channels
  | .assetClass => h.assetClasses
  | .mandateStatus => h.mandateStatuses
  | .privacyLevel => h.privacyLevels
  | .influenceLevel => h.influenceLevels
  | .pca => h.pca
  | .aca => h.aca

theorem Dimensionwise.selected (h : Dimensionwise R f g) :
    ∀ k : EntityKind, R (f.selected k) (g.selected k)
  | .consultant => h.consultants
  | .fieldConsultant => h.fieldConsultants
  | .company => h.companies
  | .product => h.products

theorem dimensionwise_iff : Dimensionwise R f g ↔
    (∀ d, R (f.accepted d) (g.accepted d)) ∧ ∀ k, R (f.selected k) (g.selected k) := by
  constructor
  · intro h
    exact ⟨h.accepted, h.selected⟩
  · rintro ⟨haccepted, hselected⟩
    exact ⟨haccepted .region, haccepted .salesRegion, haccepted .channel, haccepted .assetClass,
      haccepted .mandateStatus, haccepted .privacyLevel, haccepted .influenceLevel,
      haccepted .pca, haccepted .aca, hselected .consultant, hselected .fieldConsultant,
      hselected .company, hselected .product⟩

end Dimensionwise

end Filter

/-! ## Refinement -/

section Narrowing

variable {α : Type} {values others : List α}

/-- A wider dimension has no values, or it has those of the narrower one, which has some. -/
theorem Narrower.resolve (h : Narrower values others) {p : Prop} (hp : values = [] ∨ p) :
    others = [] ∨ values ⊆ others ∧ p :=
  h.imp_right fun ⟨hne, hsub⟩ => ⟨hsub, hp.resolve_left hne⟩

theorem narrower_of_mem_iff (h : ∀ a, a ∈ values ↔ a ∈ others) : Narrower values others := by
  cases others with
  | nil => exact .inl rfl
  | cons a rest =>
    have ha : a ∈ values := (h a).2 List.mem_cons_self
    exact .inr ⟨List.ne_nil_of_mem ha, fun b => (h b).1⟩

end Narrowing

namespace Filter

variable {a b f g : Filter} {n : Node}

theorem Refines.admits (h : b.Refines a) (hb : b.Admits n) : a.Admits n := by
  refine admits_iff.2 ⟨?_, fun d => ?_, fun k => ?_⟩
  · rcases h.kinds.resolve hb.kinds with hnil | ⟨hsub, k, hk, hlabel⟩
    · exact .inl hnil
    · exact .inr ⟨k, hsub hk, hlabel⟩
  · rcases (h.texts.accepted d).resolve (hb.properties d) with
      hnil | ⟨hsub, key, hkey, v, hv, s, hs, hholds⟩
    · exact .inl hnil
    · exact .inr ⟨key, hkey, v, hv, s, hsub hs, hholds⟩
  · rcases (h.texts.selected k).resolve (hb.entities k) with
      hnil | ⟨hsub, hlabel, s, hs, hnamed⟩
    · exact .inl hnil
    · exact .inr ⟨hlabel, s, hsub hs, hnamed⟩

theorem refines_empty (f : Filter) : f.Refines {} where
  kinds := .inl rfl
  texts := by constructor <;> exact .inl rfl

theorem SameChoices.symm (h : f.SameChoices g) : g.SameChoices f where
  kinds k := (h.kinds k).symm
  texts := dimensionwise_iff.2
    ⟨fun d s => (h.texts.accepted d s).symm, fun k s => (h.texts.selected k s).symm⟩

theorem SameChoices.refines (h : f.SameChoices g) : f.Refines g where
  kinds := narrower_of_mem_iff h.kinds
  texts := dimensionwise_iff.2 ⟨fun d => narrower_of_mem_iff (h.texts.accepted d),
    fun k => narrower_of_mem_iff (h.texts.selected k)⟩

/-- Only which values a dimension has matters to what a filter admits. -/
theorem SameChoices.admits_iff (h : f.SameChoices g) (n : Node) : f.Admits n ↔ g.Admits n :=
  ⟨h.refines.admits, h.symm.refines.admits⟩

end Filter

/-! ## Texts among values -/

namespace Value

theorem equivalent_string (v : Value) (s : String) :
    v.equivalent (.string s) = true ↔ v = .string s := by
  cases v <;> simp [equivalent, isNull, isNumber, same]

/-- Among texts, a value is in exactly when it is one of them. -/
theorem isIn_strings (v : Value) (texts : List String) :
    v.isIn (texts.map .string) = true ↔ ∃ s ∈ texts, v = .string s := by
  simp [isIn, List.any_map, equivalent_string]

theorem matchesAny_strings (v : Value) (texts : List String) :
    v.matchesAny (texts.map .string) = true ↔ ∃ s ∈ texts, v.Holds s := by
  have hscalar {v : Value} (h : v.isList = false) :
      v.isIn (texts.map .string) = true ↔ ∃ s ∈ texts, v.Holds s := by
    rw [isIn_strings]
    refine exists_congr fun s => and_congr_right fun _ => ⟨.inl, ?_⟩
    rintro (heq | ⟨items, rfl, _⟩)
    · exact heq
    · cases h
  cases v with
  | null => simp [matchesAny, Holds]
  | list items =>
    simp only [matchesAny, List.any_eq_true, isIn_strings]
    constructor
    · rintro ⟨item, hitem, s, hs, rfl⟩
      exact ⟨s, hs, .inr ⟨items, rfl, hitem⟩⟩
    · rintro ⟨s, hs, heq | ⟨_, heq, hitem⟩⟩
      · cases heq
      · cases heq
        exact ⟨_, hitem, s, hs, rfl⟩
  | _ => exact hscalar rfl

end Value

end FacetedGraph
