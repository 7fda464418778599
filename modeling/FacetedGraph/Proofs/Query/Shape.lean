import FacetedGraph.Proofs.Filter.Conditions
import FacetedGraph.Proofs.Query.Plan

/-!
# Query texts and the shapes of filters

What a caller selects is in the parameters of a query and never in its text. The text is told by
the dimensions and bounds that a filter uses, and by the pattern without the identities and
numbers in it.

## Main definitions

* `Filter.SameShape` — filters that use the same dimensions and the same bounds.
* `Filter.query` — the query of a pattern about what a filter selects.
* `Pattern.form` — a pattern without the values that it carries.

## Main statements

* `Filter.SameShape.conditions_eq` — such filters come down to the same predicates.
* `Filter.text_of_sameShape` — and to the same text.
-/

namespace FacetedGraph

/-- Ranges that have the same bounds. One without bounds is as good as none. -/
structure SameBounds {α : Type} (r q : Option (NumericRange α)) : Prop where
  min : (r.bind NumericRange.min).isSome = (q.bind NumericRange.min).isSome
  max : (r.bind NumericRange.max).isSome = (q.bind NumericRange.max).isSome

namespace Filter

structure SameShape (f g : Filter) : Prop where
  kinds : f.entityKinds = [] ↔ g.entityKinds = []
  texts : Dimensionwise (fun as bs => as = [] ↔ bs = []) f g
  rating : SameBounds f.ratingRange g.ratingRange
  changes : f.ratingChanges = [] ↔ g.ratingChanges = []
  groups : f.rankGroups = [] ↔ g.rankGroups = []
  ranks : f.rankValues = [] ↔ g.rankValues = []
  order : SameBounds f.rankOrderRange g.rankOrderRange

/-! ## Predicates of fragments -/

section Fragments

/-- Of the accepted texts a predicate shows only that there are some. -/
theorem map_fst_textFragment (predicate : Predicate) (texts : List String) :
    (textFragment predicate texts).map Prod.fst = if texts = [] then none else some predicate := by
  cases texts <;> rfl

theorem predicates_textFragments {δ : Type} (dims : List δ) (predicate : δ → Predicate)
    {texts others : δ → List String} (h : ∀ d, texts d = [] ↔ others d = []) :
    (dims.filterMap fun d => textFragment (predicate d) (texts d)).map Prod.fst =
      (dims.filterMap fun d => textFragment (predicate d) (others d)).map Prod.fst := by
  simp only [List.map_filterMap, map_fst_textFragment, h]

theorem predicates_rangeFragments {α : Type} {r q : Option (NumericRange α)} (h : SameBounds r q)
    (relation key stem : String) (cast : Bool) (value : α → Value) :
    (rangeFragments relation key stem cast value r).map Prod.fst =
      (rangeFragments relation key stem cast value q).map Prod.fst := by
  have hbounds (r : Option (NumericRange α)) :
      (rangeFragments relation key stem cast value r).map Prod.fst =
        (if (r.bind NumericRange.min).isSome then
          [.relationBound relation key .min (stem ++ "_min") cast] else []) ++
        (if (r.bind NumericRange.max).isSome then
          [.relationBound relation key .max (stem ++ "_max") cast] else []) := by
    obtain _ | ⟨_ | _, _ | _⟩ := r <;> rfl
  rw [hbounds, hbounds, h.min, h.max]

theorem bounded_eq {α : Type} (r : Option (NumericRange α)) :
    bounded r = ((r.bind NumericRange.min).isSome || (r.bind NumericRange.max).isSome) := by
  obtain _ | ⟨_ | _, _ | _⟩ := r <;> rfl

theorem isEmpty_congr {α : Type} {as bs : List α} (h : as = [] ↔ bs = []) :
    as.isEmpty = bs.isEmpty := by
  rw [Bool.eq_iff_iff, List.isEmpty_iff, List.isEmpty_iff, h]

end Fragments

namespace SameShape

variable {f g : Filter} (h : f.SameShape g)

include h

theorem nodePredicates (subject : String) :
    (f.nodeFragments subject).map Prod.fst = (g.nodeFragments subject).map Prod.fst := by
  simp only [nodeFragments, List.map_append, ← Option.toList_map, map_fst_textFragment,
    List.map_eq_nil_iff, h.kinds, predicates_textFragments NodeDimension.all _ h.texts.accepted,
    predicates_textFragments EntityKind.all _ h.texts.selected]

theorem relationPredicates (relation : String) :
    (f.relationFragments relation).map Prod.fst = (g.relationFragments relation).map Prod.fst := by
  simp only [relationFragments, List.map_append, List.map_filterMap, id_eq,
    predicates_rangeFragments h.rating, predicates_rangeFragments h.order]
  simp only [List.filterMap_cons, map_fst_textFragment, h.changes, h.groups, h.ranks]

theorem bounded_rating : bounded f.ratingRange = bounded g.ratingRange := by
  rw [bounded_eq, bounded_eq, h.rating.min, h.rating.max]

theorem bounded_order : bounded f.rankOrderRange = bounded g.rankOrderRange := by
  rw [bounded_eq, bounded_eq, h.order.min, h.order.max]

theorem constrainsRelationships_eq :
    f.constrainsRelationships = g.constrainsRelationships := by
  simp only [constrainsRelationships, h.bounded_rating, h.bounded_order,
    isEmpty_congr h.changes, isEmpty_congr h.groups, isEmpty_congr h.ranks]

theorem firstRelationDimension_eq : f.firstRelationDimension = g.firstRelationDimension := by
  simp only [firstRelationDimension, h.bounded_rating, isEmpty_congr h.changes,
    isEmpty_congr h.groups, isEmpty_congr h.ranks]

/-- What is left of the conditions without the bindings, or the reason why there are none. -/
theorem conditions_eq (subject : String) (relation : Option String) :
    (f.conditions subject relation).map (fun c => (c.node, c.relation)) =
      (g.conditions subject relation).map fun c => (c.node, c.relation) := by
  unfold conditions
  rw [h.constrainsRelationships_eq, h.firstRelationDimension_eq]
  cases g.constrainsRelationships with
  | false => simp [Except.map, h.nodePredicates]
  | true =>
    cases relation with
    | none => rfl
    | some var => simp [Except.map, h.nodePredicates, h.relationPredicates]

end SameShape

end Filter

/-! ## Texts -/

/-- A pattern without the identities, depths and limits that it carries. -/
def Pattern.form : Pattern → Pattern
  | fetch neighborhood => fetch neighborhood
  | options facet => options facet
  | expansion _ _ => expansion [] 0
  | paths _ _ _ => paths [] [] 0
  | recommendation _ recommender _ => recommendation ⟨0⟩ recommender 0
  | influence _ => influence []
  | detail _ => detail ⟨0⟩

namespace Plan

theorem text_form (pattern : Pattern) (conditions : Conditions) (page : Page) :
    (⟨pattern.form, conditions, page⟩ : Plan).text = (⟨pattern, conditions, page⟩ : Plan).text := by
  cases pattern <;> rfl

variable {pattern other : Pattern} {c d : Conditions} (hnode : c.node = d.node)
  (hrelation : c.relation = d.relation) (page page' : Page)

include hnode hrelation

/-- The text of a plan does not show the bindings, the page, nor what the pattern carries. -/
theorem text_congr (hform : pattern.form = other.form) :
    (⟨pattern, c, page⟩ : Plan).text = (⟨other, d, page'⟩ : Plan).text := by
  rw [← text_form pattern, ← text_form other, hform]
  obtain ⟨node, relation, _⟩ := c
  cases hnode
  cases hrelation
  rfl

theorem map_text_query_congr :
    (⟨pattern, c, page⟩ : Plan).query.map Query.text =
      (⟨pattern, d, page'⟩ : Plan).query.map Query.text := by
  have hcheck : (⟨pattern, c, page⟩ : Plan).check = (⟨pattern, d, page'⟩ : Plan).check := by
    simp only [check, hnode, hrelation]
  rw [text_query, text_query, hcheck, text_congr hnode hrelation page page' rfl]

end Plan

namespace Filter

/-- The query of a pattern about what a filter selects. -/
def query (f : Filter) (subject : String) (relation : Option String) (pattern : Pattern)
    (page : Page) : Except Error Query := do
  ({ pattern, conditions := ← f.conditions subject relation, page } : Plan).query

variable {f g : Filter} {subject : String} {relation : Option String} {pattern : Pattern}
  {page : Page}

theorem query_eq_ok {q : Query} :
    f.query subject relation pattern page = .ok q ↔
      ∃ c, f.conditions subject relation = .ok c ∧ (⟨pattern, c, page⟩ : Plan).query = .ok q := by
  unfold query
  cases f.conditions subject relation <;> simp [bind, Except.bind]

theorem SameShape.map_text_query (h : f.SameShape g) (page page' : Page) :
    (f.query subject relation pattern page).map Query.text =
      (g.query subject relation pattern page').map Query.text := by
  have hconditions := h.conditions_eq subject relation
  unfold query
  cases hf : f.conditions subject relation with
  | error e =>
    cases hg : g.conditions subject relation <;> simp_all [Except.map, bind, Except.bind]
  | ok c =>
    cases hg : g.conditions subject relation with
    | error e => simp [hf, hg, Except.map] at hconditions
    | ok d =>
      rw [hf, hg] at hconditions
      obtain ⟨hnode, hrelation⟩ := Prod.mk.inj (Except.ok.inj hconditions)
      exact Plan.map_text_query_congr hnode hrelation page page'

theorem SameShape.text_query (h : f.SameShape g) {pattern pattern' : Pattern}
    (hform : pattern.form = pattern'.form) {page page' : Page} {q q' : Query}
    (hq : f.query subject relation pattern page = .ok q)
    (hq' : g.query subject relation pattern' page' = .ok q') : q.text = q'.text := by
  obtain ⟨c, hc, hq⟩ := query_eq_ok.1 hq
  obtain ⟨d, hd, hq'⟩ := query_eq_ok.1 hq'
  have hconditions := h.conditions_eq subject relation
  rw [hc, hd] at hconditions
  obtain ⟨hnode, hrelation⟩ := Prod.mk.inj (Except.ok.inj hconditions)
  rw [Plan.text_of_query hq, Plan.text_of_query hq']
  exact Plan.text_congr hnode hrelation page page' hform

/-- Conditions can be had without a relationship as long as no dimension speaks of one. -/
theorem exists_conditions (subject : String)
    (h : relation.isSome = true ∨ f.constrainsRelationships = false) :
    ∃ c, f.conditions subject relation = .ok c ∧
      c.node = (f.nodeFragments subject).map Prod.fst ∧
      (f.constrainsRelationships = false → c.relation = []) := by
  unfold conditions
  cases hf : f.constrainsRelationships with
  | false => exact ⟨_, rfl, rfl, fun _ => rfl⟩
  | true =>
    obtain ⟨var, rfl⟩ := Option.isSome_iff_exists.1 (h.resolve_right (by simp [hf]))
    exact ⟨_, rfl, rfl, fun hfalse => by cases hfalse⟩

theorem exists_query (hpattern : pattern.validate = .ok ())
    (hrelation : f.constrainsRelationships = false ∨
      relation.isSome = true ∧ pattern.bindsRelation = true)
    (hnode : f.constrainsNodes = false ∨ pattern.acceptsFilters = true) :
    ∃ q, f.query subject relation pattern page = .ok q := by
  obtain ⟨c, hc, hcnode, hcrelation⟩ := f.exists_conditions subject
    (hrelation.symm.imp_left And.left)
  have hcheck : (⟨pattern, c, page⟩ : Plan).check = .ok () := by
    apply Plan.check_ok hpattern
    · exact hrelation.imp hcrelation And.right
    · refine hnode.imp_left fun hnone => ?_
      simp [hcnode, (f.nodeFragments_eq_nil subject).2 hnone]
  exact ⟨_, query_eq_ok.2 ⟨c, hc, Plan.query_ok hcheck⟩⟩

/-- The text of a query does not depend on what is selected. Filters of one shape have the same
text on whatever page, or are refused for the same reason, and so have patterns that differ in
identities, depths and limits. A fetch is never refused where it has a relationship to speak of,
options are not where no dimension speaks of relationships, and without a filter no pattern is that
is in range. -/
theorem text_of_sameShape (h : f.SameShape g) (subject : String) (relation : Option String) :
    (∀ pattern page page', (f.query subject relation pattern page).map Query.text =
      (g.query subject relation pattern page').map Query.text) ∧
    (∀ pattern pattern' page page' q q', pattern.form = pattern'.form →
      f.query subject relation pattern page = .ok q →
      g.query subject relation pattern' page' = .ok q' → q.text = q'.text) ∧
    (relation.isSome = true ∨ f.constrainsRelationships = false → ∀ neighborhood page,
      ∃ q, f.query subject relation (.fetch neighborhood) page = .ok q) ∧
    (f.constrainsRelationships = false → ∀ facet page,
      ∃ q, f.query subject relation (.options facet) page = .ok q) ∧
    (f.isEmpty = true → ∀ pattern page, pattern.validate = .ok () →
      ∃ q, f.query subject relation pattern page = .ok q) := by
  refine ⟨fun _ => h.map_text_query, fun _ _ _ _ _ _ hform => h.text_query hform, ?_, ?_, ?_⟩
  · intro hrelation neighborhood page
    exact exists_query rfl (hrelation.symm.imp_right fun hsome => ⟨hsome, rfl⟩) (.inr rfl)
  · intro hrelation facet page
    exact exists_query rfl (.inl hrelation) (.inr rfl)
  · intro hempty pattern page hpattern
    obtain ⟨hnode, hrelation⟩ : f.constrainsNodes = false ∧ f.constrainsRelationships = false := by
      simpa [isEmpty] using hempty
    exact exists_query hpattern (.inl hrelation) (.inl hnode)

def plain : Filter where
  regions := ["EU"]
  ratingRange := some { min := some (.ofInt 3) }

/-- Texts that would end a string or name a parameter, were they part of the text. -/
def hostile : Filter where
  regions := ["' OR 1 = 1 //", "\x60$limit\""]
  ratingRange := some { min := some (.ofInt (-1)) }
  rankOrderRange := some {}

theorem text_of_hostile :
    plain.SameShape hostile ∧
      ∃ q q', plain.query "n" (some "r") (.fetch .oneHop) ⟨10, 0⟩ = .ok q ∧
        hostile.query "n" (some "r") (.fetch .oneHop) ⟨7, 2⟩ = .ok q' ∧ q.text = q'.text := by
  have hshape : plain.SameShape hostile := by
    constructor
    case texts => constructor <;> decide
    case rating => exact ⟨rfl, rfl⟩
    case order => exact ⟨rfl, rfl⟩
    all_goals decide
  obtain ⟨-, htext, hfetch, -, -⟩ := text_of_sameShape hshape "n" (some "r")
  obtain ⟨q, hq⟩ := hfetch (.inl rfl) .oneHop ⟨10, 0⟩
  obtain ⟨q', hq'⟩ : ∃ q', hostile.query "n" (some "r") (.fetch .oneHop) ⟨7, 2⟩ = .ok q' :=
    exists_query rfl (.inr ⟨rfl, rfl⟩) (.inr rfl)
  exact ⟨hshape, q, q', hq, hq', htext _ _ _ _ q q' rfl hq hq'⟩

end Filter

end FacetedGraph
