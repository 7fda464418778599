import FacetedGraph.Proofs.Query.References
import FacetedGraph.Query.Plan

/-!
# The templates of queries

Every template writes dollar signs only in front of the names that it refers to, and refers to the
parameters of its predicates and to what its pattern takes.

A fixed text is checked one literal at a time, each by its characters. `String.reduceAppend` stays
off in these proofs, since it would run the literals together.

## Main definitions

* `Predicate.Writable` — predicates whose names can be written into a text.

## Main statements

* `Template.delimited_predicate`, `Template.mem_references_predicate`.
* `Template.delimited_conditions`, `Template.mem_references_conditions`.
* `Template.mem_references_fetch`, `Template.mem_references_relationalFetch`,
  `Template.mem_references_options` — what a template with predicates refers to.
* `Plan.delimited_template` — the references of a plan can be read from its text.
-/

namespace FacetedGraph

/-! ## Keys -/

theorem Key.mem_of_mem_doubleQuotes {c : Char} {key : List Char} (h : c ∈ doubleQuotes key) :
    c ∈ key := by
  fun_induction doubleQuotes key <;> grind

theorem dollarless_escaped {key : String} (h : Dollarless key) : Dollarless (Key.escaped key) := by
  rw [dollarless_iff] at h ⊢
  rw [Key.escaped, String.toList_ofList, Key.escape]
  by_cases hplain : Key.isPlain key.toList = true
  · rwa [if_pos hplain]
  · rw [if_neg hplain, List.mem_cons, List.mem_append, List.mem_singleton]
    rintro (hquote | hmem | hquote)
    · exact absurd hquote (by decide)
    · exact h (Key.mem_of_mem_doubleQuotes hmem)
    · exact absurd hquote (by decide)

/-! ## Predicates -/

/-- Predicates that compare with something and whose names can be written into a text. -/
def Predicate.Writable : Predicate → Prop
  | .propertyIn var keys param =>
    Dollarless var ∧ (∀ k ∈ keys, Dollarless k) ∧ keys ≠ [] ∧ Nameable param
  | .labelIn var param | .identifier var _ param => Dollarless var ∧ Nameable param
  | .relationPropertyIn var key param | .relationBound var key _ param _ =>
    Dollarless var ∧ Dollarless key ∧ Nameable param

namespace Template

open Piece

theorem dollarless_property {var key : String} (hvar : Dollarless var) (hkey : Dollarless key) :
    Dollarless (property var key) := by
  refine dollarless_append.2 ⟨dollarless_append.2 ⟨hvar, ?_⟩, dollarless_escaped hkey⟩
  exact passes_ofList (by decide)

theorem dollarless_listShape {property : String} (h : Dollarless property) :
    Dollarless (listShape property) := by
  unfold listShape
  simp only [dollarless_append, h, and_true, -String.reduceAppend]
  and_intros <;> exact passes_ofList (by decide)

theorem delimited_propertyHolds {property param : String} (hproperty : Dollarless property)
    (hparam : Nameable param) : (propertyHolds property param).Delimited := by
  unfold propertyHolds
  simp only [Delimited, Apart, dollarless_append, hproperty, dollarless_listShape hproperty, hparam,
    and_true, true_and, -String.reduceAppend]
  and_intros
  all_goals repeat with_reducible apply Breaks.append
  all_goals exact passes_ofList (by decide)

theorem dollarless_label (kind : EntityKind) : Dollarless kind.label := by
  cases kind <;> exact passes_ofList (by decide)

theorem dollarless_comparison (bound : Bound) : Dollarless (comparison bound) := by
  cases bound <;> exact passes_ofList (by decide)

theorem delimited_predicate {p : Predicate} (h : p.Writable) : (predicate p).Delimited := by
  cases p with
  | propertyIn var keys param =>
    obtain ⟨hvar, hkeys, -, hparam⟩ := h
    have hholds : (joined " OR "
        (keys.map fun k => propertyHolds (property var k) param)).Delimited := by
      refine delimited_joined (passes_ofList (by decide)) (passes_ofList (by decide)) fun t ht => ?_
      obtain ⟨k, hk, rfl⟩ := List.mem_map.1 ht
      exact delimited_propertyHolds (dollarless_property hvar (hkeys k hk)) hparam
    have hclose : Delimited [fixed ")"] := ⟨passes_ofList (by decide), trivial⟩
    have hbreaks : Breaks ")" := passes_ofList (by decide)
    exact ⟨passes_ofList (by decide), hholds.append hclose hbreaks⟩
  | labelIn var param =>
    obtain ⟨hvar, hparam⟩ := h
    unfold predicate
    simp only [Delimited, Apart, dollarless_append, hvar, hparam, and_true, true_and,
      -String.reduceAppend]
    and_intros <;> exact passes_ofList (by decide)
  | identifier var kind param =>
    obtain ⟨hvar, hparam⟩ := h
    unfold predicate
    simp only [Delimited, Apart, dollarless_append, hvar, hparam, dollarless_label, and_true,
      true_and, -String.reduceAppend]
    and_intros
    all_goals repeat with_reducible apply Breaks.append
    all_goals exact passes_ofList (by decide)
  | relationPropertyIn var key param =>
    obtain ⟨hvar, hkey, hparam⟩ := h
    refine ⟨dollarless_append.2 ⟨dollarless_property hvar hkey, ?_⟩, hparam, trivial, trivial⟩
    exact passes_ofList (by decide)
  | relationBound var key bound param cast =>
    obtain ⟨hvar, hkey, hparam⟩ := h
    have hproperty := dollarless_property hvar hkey
    have hsubject : Dollarless
        (if cast then "toFloat(" ++ property var key ++ ")" else property var key) := by
      cases cast with
      | false => exact hproperty
      | true =>
        refine dollarless_append.2 ⟨dollarless_append.2 ⟨?_, hproperty⟩, ?_⟩ <;>
          exact passes_ofList (by decide)
    unfold predicate
    simp only [Delimited, Apart, dollarless_append, hsubject, hparam, dollarless_comparison,
      and_true, true_and, and_self]
    exact passes_ofList (by decide)

theorem mem_references_predicate {p : Predicate} (h : p.Writable) {name : String} :
    name ∈ (predicate p).references ↔ name = p.parameter := by
  cases p with
  | propertyIn var keys param =>
    obtain ⟨k, hk⟩ := List.exists_mem_of_ne_nil keys h.2.2.1
    have hholds (property : String) : (propertyHolds property param).references = [param, param] :=
      rfl
    have htemplate : (predicate (.propertyIn var keys param)).references =
        (joined " OR " (keys.map fun k => propertyHolds (property var k) param)).references := by
      exact (references_append _ _).trans (List.append_nil _)
    rw [htemplate, mem_references_joined]
    constructor
    · rintro ⟨t, ht, hname⟩
      obtain ⟨k, -, rfl⟩ := List.mem_map.1 ht
      simpa [hholds, Predicate.parameter] using hname
    · rintro rfl
      exact ⟨_, List.mem_map_of_mem hk, by simp [hholds]⟩
  | labelIn var param => exact List.mem_singleton
  | identifier var kind param =>
    change name ∈ [param, param] ↔ name = param
    simp
  | relationPropertyIn var key param => exact List.mem_singleton
  | relationBound var key bound param cast => exact List.mem_singleton

/-! ## Conditions -/

section Conditions

variable {ps : List Predicate} (h : ∀ p ∈ ps, p.Writable)

include h

theorem delimited_conditions : (conditions ps).Delimited := by
  cases ps with
  | nil => trivial
  | cons p rest =>
    refine ⟨passes_ofList (by decide), ?_⟩
    refine delimited_joined (passes_ofList (by decide)) (passes_ofList (by decide)) fun t ht => ?_
    obtain ⟨q, hq, rfl⟩ := List.mem_map.1 ht
    exact delimited_predicate (h q hq)

theorem mem_references_conditions {name : String} :
    name ∈ (conditions ps).references ↔ ∃ p ∈ ps, name = p.parameter := by
  have htemplate : (conditions ps).references =
      (joined "\n  AND " (ps.map predicate)).references := by
    cases ps <;> rfl
  rw [htemplate, mem_references_joined]
  constructor
  · rintro ⟨t, ht, hname⟩
    obtain ⟨p, hp, rfl⟩ := List.mem_map.1 ht
    exact ⟨p, hp, (mem_references_predicate (h p hp)).1 hname⟩
  · rintro ⟨p, hp, hname⟩
    exact ⟨_, List.mem_map_of_mem hp, (mem_references_predicate (h p hp)).2 hname⟩

end Conditions

/-! ## Patterns -/

theorem dollarless_intercalate {separator : String} {texts : List String}
    (hseparator : Dollarless separator) (h : ∀ s ∈ texts, Dollarless s) :
    Dollarless (separator.intercalate texts) := by
  induction texts with
  | nil => exact passes_ofList (by decide)
  | cons s rest ih =>
    obtain ⟨hs, hrest⟩ := List.forall_mem_cons.1 h
    cases rest with
    | nil => simpa using hs
    | cons t rest =>
      rw [String.intercalate_cons_cons]
      exact dollarless_append.2 ⟨dollarless_append.2 ⟨hs, hseparator⟩, ih hrest⟩

theorem dollarless_keys (d : NodeDimension) : ∀ k ∈ d.keys, Dollarless k := by
  delta NodeDimension.keys
  cases d <;> simp only [List.forall_mem_cons, List.not_mem_nil, false_imp_iff, implies_true,
    and_true] <;> and_intros <;> exact passes_ofList (by decide)

theorem dollarless_scope : Dollarless scope := by
  delta scope
  simp only [dollarless_append, -String.reduceAppend]
  and_intros <;> exact passes_ofList (by decide)

theorem dollarless_distinctTexts : Dollarless distinctTexts := by
  delta distinctTexts
  simp only [dollarless_append, -String.reduceAppend]
  and_intros <;> exact passes_ofList (by decide)

theorem dollarless_offered {source : FacetSource}
    (hkey : ∀ key, source = .rating key → Dollarless key) : Dollarless (offered source) := by
  delta offered
  cases source with
  | property d =>
    have hquoted : ∀ s ∈ d.keys.map fun k => "'" ++ k ++ "'", Dollarless s := by
      intro s hs
      obtain ⟨k, hk, rfl⟩ := List.mem_map.1 hs
      refine dollarless_append.2 ⟨dollarless_append.2 ⟨?_, dollarless_keys d k hk⟩, ?_⟩ <;>
        exact passes_ofList (by decide)
    have hraw : Dollarless "raw" := passes_ofList (by decide)
    have hseparator : Dollarless ", " := passes_ofList (by decide)
    have hkeys := dollarless_intercalate hseparator hquoted
    simp only [dollarless_append, dollarless_scope, dollarless_distinctTexts, hkeys,
      dollarless_listShape hraw, and_true, true_and, -String.reduceAppend]
    and_intros <;> exact passes_ofList (by decide)
  | rating key =>
    have hr : Dollarless "r" := passes_ofList (by decide)
    simp only [dollarless_append, dollarless_distinctTexts,
      dollarless_listShape (dollarless_property hr (hkey key rfl)), and_true, -String.reduceAppend]
    and_intros <;> exact passes_ofList (by decide)
  | entity kind =>
    simp only [dollarless_append, dollarless_scope, dollarless_label, and_true, true_and,
      -String.reduceAppend]
    and_intros <;> exact passes_ofList (by decide)

theorem dollarless_facet (facet : Facet) : Dollarless (offered facet.source) := by
  refine dollarless_offered fun key hkey => ?_
  cases facet <;> cases hkey <;> exact passes_ofList (by decide)

theorem breaks_offered (source : FacetSource) : Breaks (offered source) := by
  delta offered scope
  cases source
  all_goals repeat with_reducible apply Breaks.append
  all_goals exact passes_ofList (by decide)

theorem dollarless_surroundings (neighborhood : Neighborhood) :
    Dollarless (surroundings neighborhood) := by
  delta surroundings
  cases neighborhood <;> simp only [dollarless_append, -String.reduceAppend] <;> and_intros <;>
    exact passes_ofList (by decide)

theorem breaks_surroundings (neighborhood : Neighborhood) : Breaks (surroundings neighborhood) := by
  delta surroundings
  cases neighborhood
  all_goals repeat with_reducible apply Breaks.append
  all_goals exact passes_ofList (by decide)

theorem dollarless_candidates (recommender : Recommender) :
    Dollarless (candidates recommender) := by
  delta candidates listShape
  cases recommender <;> simp only [dollarless_append, -String.reduceAppend] <;> and_intros <;>
    exact passes_ofList (by decide)

theorem delimited_pageClause : pageClause.Delimited := by
  delta pageClause
  simp only [Delimited, Apart, and_true]
  and_intros <;> exact passes_ofList (by decide)

theorem delimited_fetch {node : List Predicate} (h : ∀ p ∈ node, p.Writable)
    (neighborhood : Neighborhood) : (fetch node neighborhood).Delimited := by
  have hmatch : Delimited (fixed "MATCH (n)" :: conditions node) :=
    ⟨passes_ofList (by decide), delimited_conditions h⟩
  have hpage : Delimited (fixed "\nWITH n" :: pageClause) :=
    ⟨passes_ofList (by decide), delimited_pageClause⟩
  have hreturn : Delimited [fixed (surroundings neighborhood)] :=
    ⟨dollarless_surroundings neighborhood, trivial⟩
  have hwith : Breaks "\nWITH n" := passes_ofList (by decide)
  exact (hmatch.append hpage hwith).append hreturn (breaks_surroundings neighborhood)

theorem delimited_relationalFetch {node relation : List Predicate}
    (h : ∀ p ∈ node ++ relation, p.Writable) : (relationalFetch node relation).Delimited := by
  unfold relationalFetch
  refine Delimited.append ⟨passes_ofList (by decide), delimited_conditions h⟩ ?_ ?_
  all_goals simp only [Delimited, Apart, dollarless_append, and_true, -String.reduceAppend]
  all_goals and_intros
  all_goals repeat with_reducible apply Breaks.append
  all_goals exact passes_ofList (by decide)

theorem delimited_options {node : List Predicate} (h : ∀ p ∈ node, p.Writable) (facet : Facet) :
    (options node facet).Delimited := by
  have hmatch : Delimited (fixed "MATCH (n)" :: conditions node) :=
    ⟨passes_ofList (by decide), delimited_conditions h⟩
  exact hmatch.append ⟨dollarless_facet facet, trivial⟩ (breaks_offered facet.source)

theorem delimited_recommendation (recommender : Recommender) :
    (recommendation recommender).Delimited := by
  unfold recommendation
  simp only [Delimited, Apart, dollarless_append, dollarless_candidates, and_true,
    -String.reduceAppend]
  and_intros
  all_goals repeat with_reducible apply Breaks.append
  all_goals exact passes_ofList (by decide)

/-! ## References of patterns -/

section References

variable {node relation : List Predicate} {name : String}

theorem references_fixed (s : String) (t : Template) : references (fixed s :: t) = t.references :=
  rfl

theorem mem_references_fetch (h : ∀ p ∈ node, p.Writable) (neighborhood : Neighborhood) :
    name ∈ (fetch node neighborhood).references ↔
      (∃ p ∈ node, name = p.parameter) ∨ name ∈ ["limit", "offset"] := by
  have hpage : pageClause.references = ["offset", "limit"] := rfl
  have hend : references [fixed (surroundings neighborhood)] = [] := rfl
  rw [fetch, references_append, references_append, references_fixed, references_fixed, hpage, hend,
    List.append_nil, List.mem_append, mem_references_conditions h]
  simp [or_comm]

theorem mem_references_relationalFetch (h : ∀ p ∈ node ++ relation, p.Writable) :
    name ∈ (relationalFetch node relation).references ↔
      (∃ p ∈ node ++ relation, name = p.parameter) ∨ name ∈ ["limit", "offset"] := by
  have hsplit : (relationalFetch node relation).references =
      (conditions (node ++ relation)).references ++ ["offset", "limit"] :=
    references_append _ _
  rw [hsplit, List.mem_append, mem_references_conditions h]
  simp [or_comm]

theorem mem_references_options (h : ∀ p ∈ node, p.Writable) (facet : Facet) :
    name ∈ (options node facet).references ↔ ∃ p ∈ node, name = p.parameter := by
  have hend : references [fixed (offered facet.source)] = [] := rfl
  rw [options, references_append, references_fixed, hend, List.append_nil,
    mem_references_conditions h]

end References

end Template

/-! ## Plans -/

namespace Plan

open Template

/-- The references of a plan can be read from its text. -/
theorem delimited_template {plan : Plan}
    (h : ∀ p ∈ plan.conditions.node ++ plan.conditions.relation, p.Writable) :
    plan.template.Delimited := by
  have hnode : ∀ p ∈ plan.conditions.node, p.Writable := fun p hp =>
    h p (List.mem_append_left _ hp)
  unfold template
  cases plan.pattern with
  | fetch neighborhood =>
    cases plan.conditions.isRelational with
    | true => exact delimited_relationalFetch h
    | false => exact delimited_fetch hnode neighborhood
  | options facet => exact delimited_options hnode facet
  | recommendation _ recommender _ => exact delimited_recommendation recommender
  | _ =>
    dsimp only [expansion, paths, influence, detail, pageClause]
    simp only [List.cons_append, List.nil_append, Delimited, Apart, dollarless_append, and_true,
      -String.reduceAppend]
    and_intros
    all_goals repeat with_reducible apply Breaks.append
    all_goals exact passes_ofList (by decide)

end Plan

end FacetedGraph
