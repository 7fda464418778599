import FacetedGraph.Proofs.Query.Shape
import FacetedGraph.Proofs.Query.Templates

/-!
# Texts and parameters match

The names of parameters are written in one place, when a filter comes down to predicates and a
pattern takes its numbers, and read in another, where predicates and patterns are put into words.

## Main statements

* `Plan.mem_references_template` — a plan refers to the parameters of its predicates and to what
  its pattern takes.
* `Filter.mem_names_bindings` — the bindings of a filter are those of its predicates.
* `Filter.names_of_query` — the names in the text of a query are the names of its parameters, and
  no page and no pattern takes the place of a binding.
-/

namespace FacetedGraph

/-! ## Plans -/

theorem Pattern.acceptsFilters_of_bindsRelation {pattern : Pattern}
    (h : pattern.bindsRelation = true) : pattern.acceptsFilters = true := by
  cases pattern with
  | fetch => rfl
  | _ => cases h

theorem Pattern.names_parameters {pattern : Pattern} (h : pattern.acceptsFilters = true)
    {page : Page} {name : String} (hname : name ∈ (pattern.parameters page).map Prod.fst) :
    name ∈ ["limit", "offset"] := by
  cases pattern with
  | fetch => exact hname
  | options => cases hname
  | _ => cases h

theorem Plan.mem_references_template {plan : Plan}
    (h : ∀ p ∈ plan.conditions.node ++ plan.conditions.relation, p.Writable)
    (hcheck : plan.check = .ok ()) {name : String} :
    name ∈ plan.template.references ↔
      (∃ p ∈ plan.conditions.node ++ plan.conditions.relation, name = p.parameter) ∨
        name ∈ (plan.pattern.parameters plan.page).map Prod.fst := by
  obtain ⟨hrelation, hnode⟩ := of_check_ok hcheck
  obtain ⟨pattern, ⟨node, relation, bindings⟩, page⟩ := plan
  cases pattern with
  | fetch neighborhood =>
    cases relation with
    | nil =>
      rw [List.append_nil] at h ⊢
      exact Template.mem_references_fetch h neighborhood
    | cons p rest => exact Template.mem_references_relationalFetch h
  | options facet =>
    obtain rfl : relation = [] := hrelation.resolve_right Bool.false_ne_true
    rw [List.append_nil] at h ⊢
    refine (Template.mem_references_options h facet).trans (or_iff_left ?_).symm
    exact List.not_mem_nil
  | expansion seeds depth =>
    obtain rfl : relation = [] := hrelation.resolve_right Bool.false_ne_true
    obtain rfl : node = [] := hnode.resolve_right Bool.false_ne_true
    rw [or_iff_right (by simp)]
    change name ∈ ["seed_ids", "depth", "offset", "limit"] ↔
      name ∈ ["limit", "offset", "seed_ids", "depth"]
    simp only [List.mem_cons, List.not_mem_nil, or_false]
    tauto
  | _ =>
    obtain rfl : relation = [] := hrelation.resolve_right Bool.false_ne_true
    obtain rfl : node = [] := hnode.resolve_right Bool.false_ne_true
    -- without predicates, text and pattern list the same names in the same order
    rw [or_iff_right (by simp)]
    rfl

/-! ## Filters -/

namespace Filter

variable {f : Filter} {subject : String} {relation : Option String} {c : Conditions}

/-- Without a relationship, the conditions are the same as with one of whatever name. -/
theorem eq_compiled (hc : f.conditions subject relation = .ok c) :
    c = f.compiled subject (relation.getD "r") := by
  cases relation with
  | some var =>
    rw [conditions_some] at hc
    cases hc
    rfl
  | none =>
    cases h : f.constrainsRelationships with
    | true => simp [conditions, h] at hc
    | false =>
      have hrelated := (f.relationFragments_eq_nil "r").2 h
      simp only [conditions, h, Bool.false_eq_true, if_false] at hc
      cases hc
      simp [compiled, hrelated]

theorem mem_names_bindingsOf {fragments : List Fragment} {name : String} :
    name ∈ (bindingsOf fragments).names ↔ ∃ p ∈ fragments.map Prod.fst, name = p.parameter := by
  rw [bindingsOf, Fields.ofList, Fields.mem_names_insertAll]
  simp [Fields.names, eq_comm]

theorem mem_names_bindings (hc : f.conditions subject relation = .ok c) {name : String} :
    name ∈ Fields.names c.bindings ↔ ∃ p ∈ c.node ++ c.relation, name = p.parameter := by
  rw [eq_compiled hc, compiled, mem_names_bindingsOf, List.map_append]

theorem ascending_bindings (hc : f.conditions subject relation = .ok c) :
    Fields.Ascending c.bindings := by
  rw [eq_compiled hc]
  exact Fields.ascending_ofList _

theorem parameter_mem_parameterNames (hc : f.conditions subject relation = .ok c) :
    ∀ p ∈ c.node ++ c.relation, p.parameter ∈ parameterNames := by
  rw [eq_compiled hc]
  intro p hp
  refine (f.parametersOf_fragments subject (relation.getD "r")).subset ?_
  rw [compiled, ← List.map_append] at hp
  obtain ⟨fragment, hfragment, rfl⟩ := List.mem_map.1 hp
  exact List.mem_map_of_mem hfragment

/-! ### Writing the predicates of a filter -/

theorem nameable_dimension (d : NodeDimension) : Nameable d.parameter := by
  cases d <;> exact passes_ofList (by decide)

theorem nameable_kind (kind : EntityKind) : Nameable kind.parameter := by
  cases kind <;> exact passes_ofList (by decide)

theorem eq_of_mem_textFragment {predicate p : Predicate} {texts : List String}
    (hp : p ∈ (textFragment predicate texts).map Prod.fst) : p = predicate := by
  rw [map_fst_textFragment] at hp
  split at hp
  · cases hp
  · cases hp
    rfl

theorem exists_of_mem_textFragments {δ : Type} (dims : List δ) (predicate : δ → Predicate)
    (texts : δ → List String) {p : Predicate}
    (hp : p ∈ (dims.filterMap fun d => textFragment (predicate d) (texts d)).map Prod.fst) :
    ∃ d ∈ dims, p = predicate d := by
  rw [List.map_filterMap] at hp
  obtain ⟨d, hd, hp⟩ := List.mem_filterMap.1 hp
  exact ⟨d, hd, eq_of_mem_textFragment hp⟩

theorem writable_nodeFragments (hsubject : Dollarless subject) :
    ∀ p ∈ (f.nodeFragments subject).map Prod.fst, p.Writable := by
  intro p hp
  rw [nodeFragments, List.map_append, List.map_append, List.mem_append, List.mem_append] at hp
  rcases hp with (hp | hp) | hp
  · rw [← Option.toList_map, Option.mem_toList] at hp
    obtain rfl := eq_of_mem_textFragment hp
    exact ⟨hsubject, passes_ofList (by decide)⟩
  · obtain ⟨d, -, rfl⟩ := exists_of_mem_textFragments NodeDimension.all _ _ hp
    exact ⟨hsubject, Template.dollarless_keys d, by cases d <;> simp [NodeDimension.keys],
      nameable_dimension d⟩
  · obtain ⟨kind, -, rfl⟩ := exists_of_mem_textFragments EntityKind.all _ _ hp
    exact ⟨hsubject, nameable_kind kind⟩

theorem writable_rangeFragments {α : Type} {var key stem : String} (hvar : Dollarless var)
    (hkey : Dollarless key) (hstem : Nameable stem) (cast : Bool) (value : α → Value)
    (range : Option (NumericRange α)) :
    ∀ p ∈ (rangeFragments var key stem cast value range).map Prod.fst, p.Writable := by
  have hmin : Nameable (stem ++ "_min") := hstem.append (passes_ofList (by decide))
  have hmax : Nameable (stem ++ "_max") := hstem.append (passes_ofList (by decide))
  obtain _ | ⟨_ | _, _ | _⟩ := range <;>
    simp [rangeFragments, Predicate.Writable, hvar, hkey, hmin, hmax]

theorem writable_relationFragments {var : String} (hvar : Dollarless var) :
    ∀ p ∈ (f.relationFragments var).map Prod.fst, p.Writable := by
  have hvalue : Dollarless "rankvalue" := passes_ofList (by decide)
  have horder : Dollarless "rankorder" := passes_ofList (by decide)
  intro p hp
  rw [relationFragments, List.map_append, List.map_append, List.mem_append, List.mem_append] at hp
  rcases hp with (hp | hp) | hp
  · exact writable_rangeFragments hvar hvalue (passes_ofList (by decide)) _ _ _ p hp
  · obtain ⟨d, hd, rfl⟩ := exists_of_mem_textFragments f.relationTexts
      (fun d => .relationPropertyIn var d.1 d.2.1) (fun d => d.2.2) hp
    refine ⟨hvar, ?_⟩
    simp only [relationTexts, List.mem_cons, List.not_mem_nil, or_false] at hd
    rcases hd with rfl | rfl | rfl <;>
      exact ⟨passes_ofList (by decide), passes_ofList (by decide)⟩
  · exact writable_rangeFragments hvar horder (passes_ofList (by decide)) _ _ _ p hp

theorem writable_conditions (hsubject : Dollarless subject)
    (hrelation : ∀ var ∈ relation, Dollarless var) (hc : f.conditions subject relation = .ok c) :
    ∀ p ∈ c.node ++ c.relation, p.Writable := by
  have hvar : Dollarless (relation.getD "r") := by
    cases relation with
    | none => exact passes_ofList (by decide)
    | some var => exact hrelation var rfl
  rw [eq_compiled hc]
  exact List.forall_mem_append.2
    ⟨writable_nodeFragments hsubject, writable_relationFragments hvar⟩

/-! ### Queries -/

/-- Where predicates stand, the pattern takes a page at most, whose names are not theirs. -/
theorem parameter_notMem_parameters (hc : f.conditions subject relation = .ok c) {pattern : Pattern}
    {page : Page} (hcheck : (⟨pattern, c, page⟩ : Plan).check = .ok ()) {p : Predicate}
    (hp : p ∈ c.node ++ c.relation) : p.parameter ∉ (pattern.parameters page).map Prod.fst := by
  obtain ⟨hrelation, hnode⟩ := Plan.of_check_ok hcheck
  have haccepts : pattern.acceptsFilters = true := by
    rcases List.mem_append.1 hp with hp | hp
    · exact hnode.resolve_left (List.ne_nil_of_mem hp)
    · exact Pattern.acceptsFilters_of_bindsRelation
        (hrelation.resolve_left (List.ne_nil_of_mem hp))
  intro hmem
  have hapart : ∀ name ∈ ["limit", "offset"], name ∉ parameterNames := by decide
  exact hapart _ (Pattern.names_parameters haccepts hmem) (parameter_mem_parameterNames hc p hp)

variable {pattern : Pattern} {page : Page} {q : Query}

/-- The names that follow a dollar sign in the text of a query are just the names of its
parameters, and among these is every binding of the filter with its value. -/
theorem names_of_query (hsubject : Dollarless subject)
    (hrelation : ∀ var ∈ relation, Dollarless var)
    (hq : f.query subject relation pattern page = .ok q) :
    (∀ name, name ∈ dollarNames q.text.toList ↔ name ∈ Fields.names q.parameters) ∧
      ∀ c, f.conditions subject relation = .ok c →
        ∀ name v, (name, v) ∈ c.bindings → Fields.get? q.parameters name = some v := by
  obtain ⟨c, hc, hplan⟩ := query_eq_ok.1 hq
  obtain ⟨hcheck, rfl⟩ := Plan.of_query_ok hplan
  have hwritable := writable_conditions hsubject hrelation hc
  refine ⟨fun name => ?_, fun d hd name v hv => ?_⟩
  · calc name ∈ dollarNames (Plan.text ⟨pattern, c, page⟩).toList
        ↔ name ∈ (Plan.template ⟨pattern, c, page⟩).references := by
          rw [Plan.text, Template.dollarNames_render (Plan.delimited_template hwritable)]
      _ ↔ (∃ p ∈ c.node ++ c.relation, name = p.parameter) ∨
            name ∈ (pattern.parameters page).map Prod.fst :=
          Plan.mem_references_template hwritable hcheck
      _ ↔ name ∈ Fields.names (Plan.parameters ⟨pattern, c, page⟩) := by
          rw [Plan.parameters, Fields.mem_names_insertAll, mem_names_bindings hc]
  · obtain rfl : c = d := Except.ok.inj (hc.symm.trans hd)
    have hbound : Fields.get? c.bindings name = some v :=
      (Fields.get?_eq_some_iff (ascending_bindings hc)).2 hv
    obtain ⟨p, hp, rfl⟩ := (mem_names_bindings hc).1 (List.mem_map_of_mem hv)
    exact (Fields.get?_insertAll_of_notMem _ (parameter_notMem_parameters hc hcheck hp)).trans
      hbound

theorem names_of_hostile_query :
    Dollarless "n" ∧ (∀ var ∈ some "r", Dollarless var) ∧
      ∃ q, hostile.query "n" (some "r") (.fetch .oneHop) ⟨7, 2⟩ = .ok q ∧
        (∀ name, name ∈ dollarNames q.text.toList ↔ name ∈ Fields.names q.parameters) ∧
        Fields.get? q.parameters "regions" =
          some (.ofStrings ["' OR 1 = 1 //", "\x60$limit\""]) := by
  have hsubject : Dollarless "n" := passes_ofList (by decide)
  have hrelation : ∀ var ∈ some "r", Dollarless var := by
    rintro var ⟨⟩
    exact passes_ofList (by decide)
  obtain ⟨q, hq⟩ : ∃ q, hostile.query "n" (some "r") (.fetch .oneHop) ⟨7, 2⟩ = .ok q :=
    exists_query rfl (.inr ⟨rfl, rfl⟩) (.inr rfl)
  obtain ⟨hnames, hbindings⟩ := names_of_query hsubject hrelation hq
  refine ⟨hsubject, hrelation, q, hq, hnames, ?_⟩
  have hconditions := hostile.conditions_some "n" "r"
  have hfragment : (.propertyIn "n" ["region"] "regions", .ofStrings hostile.regions) ∈
      hostile.nodeFragments "n" :=
    List.mem_append_left _ (List.mem_append_right _ List.mem_cons_self)
  refine hbindings _ hconditions _ _ ?_
  exact (Fields.get?_eq_some_iff (ascending_bindings hconditions)).1
    (hostile.binds_compiled "n" "r" _ (List.mem_append_left _ hfragment))

end Filter

end FacetedGraph
