import FacetedGraph.Proofs.Query.Parameters

/-!
# Criteria of a filter

A filter is a form with one entry for each criterion, and an entry may be left blank. Conditions
are to say what the form says: a predicate for each entry that is filled in, with its parameter
bound to what the entry holds, and nothing else.

## Main definitions

* `Criterion` — the entries of the form, the two bounds of a range apart.
* `Criterion.value?` — what a filter holds for a criterion.
* `Filter.Expressed` — conditions say what a filter says.

## Main statements

* `Filter.nodeFragments_eq`, `Filter.relationFragments_eq` — fragments are the criteria in use.
* `Filter.conditions_faithful` — when a filter comes down to conditions, and that these express it.
-/

namespace FacetedGraph

/-- What a filter can ask for. The bounds of a range are criteria of their own. -/
inductive Criterion
  | kinds
  | property (d : NodeDimension)
  | entity (kind : EntityKind)
  | rating (bound : Bound)
  | change
  | group
  | rank
  | order (bound : Bound)
  deriving DecidableEq

namespace Criterion

def ofNodes : List Criterion :=
  [kinds] ++ NodeDimension.all.map property ++ EntityKind.all.map entity

def ofRelationships : List Criterion :=
  [rating .min, rating .max] ++ [change, group, rank] ++ [order .min, order .max]

def isRelational : Criterion → Bool
  | kinds | property _ | entity _ => false
  | rating _ | change | group | rank | order _ => true

/-- The name of the parameter that holds the value of the criterion. -/
def parameter : Criterion → String
  | kinds => "entity_types"
  | property d => d.parameter
  | entity kind => kind.parameter
  | rating .min => "rating_min"
  | rating .max => "rating_max"
  | change => "rating_changes"
  | group => "rank_groups"
  | rank => "rank_values"
  | order .min => "rank_order_min"
  | order .max => "rank_order_max"

/-- The predicate of the criterion on what goes by the name `var`. -/
def predicate (var : String) (k : Criterion) : Predicate :=
  match k with
  | kinds => .labelIn var k.parameter
  | property d => .propertyIn var d.keys k.parameter
  | entity kind => .identifier var kind k.parameter
  | rating bound => .relationBound var "rankvalue" bound k.parameter true
  | change => .relationPropertyIn var "rating_change" k.parameter
  | group => .relationPropertyIn var "rankgroup" k.parameter
  | rank => .relationPropertyIn var "rankvalue" k.parameter
  | order bound => .relationBound var "rankorder" bound k.parameter false

/-- Accepted texts as a value, unless there are none. -/
def texts? (texts : List String) : Option Value :=
  if texts.isEmpty then none else some (.ofStrings texts)

/-- A bound of a range, which may be missing as the range itself may be. -/
def bound? {α : Type} (range : Option (NumericRange α)) : Bound → Option α
  | .min => range.bind NumericRange.min
  | .max => range.bind NumericRange.max

/-- What the filter holds for the criterion. -/
def value? (f : Filter) : Criterion → Option Value
  | kinds => texts? (f.entityKinds.map EntityKind.label)
  | property .region => texts? f.regions
  | property .salesRegion => texts? f.salesRegions
  | property .channel => texts? f.channels
  | property .assetClass => texts? f.assetClasses
  | property .mandateStatus => texts? f.mandateStatuses
  | property .privacyLevel => texts? f.privacyLevels
  | property .influenceLevel => texts? f.influenceLevels
  | property .pca => texts? f.pca
  | property .aca => texts? f.aca
  | entity .consultant => texts? f.consultants
  | entity .fieldConsultant => texts? f.fieldConsultants
  | entity .company => texts? f.companies
  | entity .product => texts? f.products
  | rating bound => (bound? f.ratingRange bound).map .float
  | change => texts? f.ratingChanges
  | group => texts? f.rankGroups
  | rank => texts? f.rankValues
  | order bound => (bound? f.rankOrderRange bound).map .int

/-- Whether the filter holds something for the criterion. -/
def isUsed (f : Filter) (k : Criterion) : Bool := (k.value? f).isSome

/-- The fragment of the criterion on what goes by the name `var`, if it is in use. -/
def fragment (f : Filter) (var : String) (k : Criterion) : Option Fragment :=
  (k.value? f).map fun v => (k.predicate var, v)

@[simp] theorem parameter_predicate (k : Criterion) (var : String) :
    (k.predicate var).parameter = k.parameter := by
  cases k <;> rfl

@[simp] theorem isRelational_predicate (k : Criterion) (var : String) :
    (k.predicate var).isRelational = k.isRelational := by
  cases k <;> rfl

/-- The two lists have every criterion, each in the list of its sort. -/
theorem mem_ofNodes {k : Criterion} : k ∈ ofNodes ↔ k.isRelational = false := by
  cases k with
  | property d => cases d <;> decide
  | entity kind => cases kind <;> decide
  | rating bound | order bound => cases bound <;> decide
  | _ => decide

theorem mem_ofRelationships {k : Criterion} : k ∈ ofRelationships ↔ k.isRelational = true := by
  cases k with
  | property d => cases d <;> decide
  | entity kind => cases kind <;> decide
  | rating bound | order bound => cases bound <;> decide
  | _ => decide

/-- Without its relationship dimensions a filter asks the same of nodes. -/
theorem value?_nodeScoped (f : Filter) {k : Criterion} (h : k.isRelational = false) :
    k.value? f.nodeScoped = k.value? f := by
  cases k with
  | kinds => rfl
  | property d => cases d <;> rfl
  | entity kind => cases kind <;> rfl
  | _ => cases h

theorem value?_property (f : Filter) (d : NodeDimension) :
    (property d).value? f = texts? (f.accepted d) := by
  cases d <;> rfl

theorem value?_entity (f : Filter) (kind : EntityKind) :
    (entity kind).value? f = texts? (f.selected kind) := by
  cases kind <;> rfl

theorem textFragment_eq (predicate : Predicate) (texts : List String) :
    Filter.textFragment predicate texts = (texts? texts).map fun v => (predicate, v) := by
  cases texts <;> rfl

/-- The predicates of fragments are those of the criteria in use. -/
theorem map_fst_fragments (f : Filter) (var : String) (criteria : List Criterion) :
    (criteria.filterMap (fragment f var)).map Prod.fst =
      (criteria.filter (isUsed f)).map (predicate var) := by
  induction criteria with
  | nil => rfl
  | cons k rest ih =>
    rw [List.filterMap_cons, List.filter_cons, isUsed, fragment]
    cases k.value? f with
    | none => exact ih
    | some v => exact congrArg (k.predicate var :: ·) ih

end Criterion

/-! ## Fragments -/

namespace Filter

open Criterion (ofNodes ofRelationships fragment isUsed)

variable (f : Filter) (subject var : String)

theorem nodeFragments_eq :
    f.nodeFragments subject = ofNodes.filterMap (fragment f subject) := by
  have hkinds (o : Option Fragment) : o.toList = [Criterion.kinds].filterMap fun _ => o := by
    cases o <;> rfl
  rw [nodeFragments, ofNodes, List.filterMap_append, List.filterMap_append, List.filterMap_map,
    List.filterMap_map, hkinds]
  simp only [Criterion.textFragment_eq, ← Criterion.value?_property, ← Criterion.value?_entity]
  rfl

theorem relationFragments_eq :
    f.relationFragments var = ofRelationships.filterMap (fragment f var) := by
  have hrating : rangeFragments var "rankvalue" "rating" true Value.float f.ratingRange =
      [Criterion.rating .min, .rating .max].filterMap (fragment f var) := by
    unfold fragment Criterion.value?
    obtain _ | ⟨_ | _, _ | _⟩ := f.ratingRange <;> rfl
  have horder : rangeFragments var "rankorder" "rank_order" false Value.int f.rankOrderRange =
      [Criterion.order .min, .order .max].filterMap (fragment f var) := by
    unfold fragment Criterion.value?
    obtain _ | ⟨_ | _, _ | _⟩ := f.rankOrderRange <;> rfl
  rw [relationFragments, ofRelationships, List.filterMap_append, List.filterMap_append, hrating,
    horder]
  simp only [Criterion.textFragment_eq]
  rfl

end Filter

/-! ## Conditions -/

open Criterion (ofNodes ofRelationships isUsed)

/-- The conditions say what the filter says, of a node that goes by the name `subject` and of a
relationship that goes by the name `relation`, where there is one. -/
structure Conditions.Express (c : Conditions) (f : Filter) (subject : String)
    (relation : Option String) : Prop where
  node : c.node = (ofNodes.filter (isUsed f)).map (Criterion.predicate subject)
  relation : c.relation =
    relation.elim [] fun var => (ofRelationships.filter (isUsed f)).map (Criterion.predicate var)
  parameters_nodup : ((c.node ++ c.relation).map Predicate.parameter).Nodup
  names_perm : (Fields.names c.bindings).Perm ((c.node ++ c.relation).map Predicate.parameter)
  values : ∀ k v, Criterion.value? f k = some v → Fields.get? c.bindings k.parameter = some v
  not_isRelational : ∀ p ∈ c.node, p.isRelational = false
  isRelational : ∀ p ∈ c.relation, p.isRelational = true
  node_eq_nil : c.node = [] ↔ f.constrainsNodes = false
  relation_eq_nil : c.relation = [] ↔ f.constrainsRelationships = false
  isEmpty : c.isEmpty = f.isEmpty

namespace Filter

variable {f : Filter} {subject : String} {relation : Option String} {c : Conditions}

theorem constrainsRelationships_of_none (hc : f.conditions subject none = .ok c) :
    f.constrainsRelationships = false := by
  cases h : f.constrainsRelationships with
  | false => rfl
  | true => simp [conditions, h] at hc

theorem exists_conditions_none (f : Filter) (subject : String)
    (h : f.constrainsRelationships = false) :
    ∃ c, f.conditions subject none = .ok c ∧ c.node = (f.nodeFragments subject).map Prod.fst := by
  have hscope : Option.isSome (none : Option String) = true ∨ f.constrainsRelationships = false :=
    .inr h
  obtain ⟨c, hc, hnode, -⟩ := exists_conditions subject hscope
  exact ⟨c, hc, hnode⟩

theorem node_eq (hc : f.conditions subject relation = .ok c) :
    c.node = (ofNodes.filter (isUsed f)).map (Criterion.predicate subject) := by
  rw [eq_compiled hc, compiled, nodeFragments_eq, Criterion.map_fst_fragments]

theorem relation_eq (hc : f.conditions subject relation = .ok c) :
    c.relation = relation.elim [] fun var =>
      (ofRelationships.filter (isUsed f)).map (Criterion.predicate var) := by
  rw [eq_compiled hc]
  cases relation with
  | none =>
    have hunused := constrainsRelationships_of_none hc
    exact congrArg (List.map Prod.fst) ((f.relationFragments_eq_nil _).2 hunused)
  | some var =>
    change (f.relationFragments var).map Prod.fst = _
    rw [relationFragments_eq, Criterion.map_fst_fragments]
    rfl

theorem nodup_parameters (hc : f.conditions subject relation = .ok c) :
    ((c.node ++ c.relation).map Predicate.parameter).Nodup := by
  rw [eq_compiled hc, compiled, ← List.map_append, List.map_map]
  exact (f.parametersOf_fragments subject _).nodup nodup_parameterNames

theorem perm_names_bindings (hc : f.conditions subject relation = .ok c) :
    (Fields.names c.bindings).Perm ((c.node ++ c.relation).map Predicate.parameter) := by
  have hnodup : (Fields.names c.bindings).Nodup := (ascending_bindings hc).imp String.ne_of_lt
  refine (List.perm_ext_iff_of_nodup hnodup (nodup_parameters hc)).2 fun name => ?_
  simp only [mem_names_bindings hc, List.mem_map, eq_comm]

/-- Whatever the filter holds for a criterion is bound, with or without a relationship. -/
theorem get?_bindings (hc : f.conditions subject relation = .ok c) {k : Criterion} {v : Value}
    (hv : k.value? f = some v) : Fields.get? c.bindings k.parameter = some v := by
  rw [eq_compiled hc]
  have hfragment (var : String) : k.fragment f var = some (k.predicate var, v) :=
    congrArg (Option.map _) hv
  have hbinds := f.binds_compiled subject (relation.getD "r")
  rw [nodeFragments_eq, relationFragments_eq, Binds.append] at hbinds
  cases hsort : k.isRelational with
  | false =>
    have hmem := List.mem_filterMap.2 ⟨k, Criterion.mem_ofNodes.2 hsort, hfragment subject⟩
    simpa using hbinds.1 _ hmem
  | true =>
    have hmem := List.mem_filterMap.2
      ⟨k, Criterion.mem_ofRelationships.2 hsort, hfragment (relation.getD "r")⟩
    simpa using hbinds.2 _ hmem

theorem node_eq_nil (hc : f.conditions subject relation = .ok c) :
    c.node = [] ↔ f.constrainsNodes = false := by
  rw [eq_compiled hc, compiled, List.map_eq_nil_iff, nodeFragments_eq_nil]

theorem relation_eq_nil (hc : f.conditions subject relation = .ok c) :
    c.relation = [] ↔ f.constrainsRelationships = false := by
  rw [eq_compiled hc, compiled, List.map_eq_nil_iff, relationFragments_eq_nil]

theorem express_of_conditions (hc : f.conditions subject relation = .ok c) :
    c.Express f subject relation where
  node := node_eq hc
  relation := relation_eq hc
  parameters_nodup := nodup_parameters hc
  names_perm := perm_names_bindings hc
  values _ _ := get?_bindings hc
  not_isRelational p hp := by
    rw [node_eq hc] at hp
    obtain ⟨k, hk, rfl⟩ := List.mem_map.1 hp
    rw [Criterion.isRelational_predicate]
    exact Criterion.mem_ofNodes.1 (List.mem_filter.1 hk).1
  isRelational p hp := by
    rw [relation_eq hc] at hp
    cases relation with
    | none => cases hp
    | some var =>
      obtain ⟨k, hk, rfl⟩ := List.mem_map.1 hp
      rw [Criterion.isRelational_predicate]
      exact Criterion.mem_ofRelationships.1 (List.mem_filter.1 hk).1
  node_eq_nil := node_eq_nil hc
  relation_eq_nil := relation_eq_nil hc
  isEmpty := by
    rw [Conditions.isEmpty, Filter.isEmpty, Bool.eq_iff_iff]
    simp only [Bool.and_eq_true, List.isEmpty_iff, Bool.not_eq_true', node_eq_nil hc,
      relation_eq_nil hc]

/-- A filter comes down to conditions wherever there is a relationship to speak of, and without one
unless a rating or rank dimension is in use. The conditions express the filter. Without its
relationship dimensions it always comes down to conditions, with the same predicates on the node
and the same values for them. -/
theorem conditions_faithful (f : Filter) (subject : String) :
    (∀ var, ∃ c, f.conditions subject (some var) = .ok c ∧ c.Express f subject (some var) ∧
      ∃ d, f.nodeScoped.conditions subject none = .ok d ∧
        d.Express f.nodeScoped subject none ∧ d.node = c.node ∧
        ∀ p ∈ d.node, ∃ v, Fields.get? d.bindings p.parameter = some v ∧
          Fields.get? c.bindings p.parameter = some v) ∧
    if f.constrainsRelationships then
      f.conditions subject none =
        .error (.incompatibleFilter f.firstRelationDimension "vertex-only")
    else ∃ c, f.conditions subject none = .ok c ∧ c.Express f subject none := by
  constructor
  · intro var
    have hc := f.conditions_some subject var
    obtain ⟨d, hd, hnode⟩ := f.nodeScoped.exists_conditions_none subject rfl
    refine ⟨_, hc, express_of_conditions hc, d, hd, express_of_conditions hd, hnode, ?_⟩
    intro p hp
    -- a node criterion in use, which asks the same of both filters
    rw [node_eq hd] at hp
    obtain ⟨k, hk, rfl⟩ := List.mem_map.1 hp
    obtain ⟨hsort, hused⟩ := List.mem_filter.1 hk
    obtain ⟨v, hv⟩ := Option.isSome_iff_exists.1 hused
    have hsame := Criterion.value?_nodeScoped f (Criterion.mem_ofNodes.1 hsort)
    rw [Criterion.parameter_predicate]
    exact ⟨v, get?_bindings hd hv, get?_bindings hc (hsame ▸ hv)⟩
  · cases h : f.constrainsRelationships with
    | true => simp [conditions, h]
    | false =>
      obtain ⟨c, hc, -⟩ := f.exists_conditions_none subject h
      exact ⟨c, hc, express_of_conditions hc⟩

/-- Both ranges are given, but one of them has no bounds and asks for nothing. -/
example :
    ofRelationships.filter (isUsed { ratingRange := some { max := some (.ofInt 3) }
                                     rankGroups := ["Gold"]
                                     rankOrderRange := some {} }) =
      [.rating .max, .group] := rfl

end Filter

end FacetedGraph
