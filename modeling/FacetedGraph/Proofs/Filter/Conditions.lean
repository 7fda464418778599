import FacetedGraph.Graph.Match
import FacetedGraph.Proofs.Fallible
import FacetedGraph.Proofs.Fields
import FacetedGraph.Proofs.Filter.Meaning

/-!
# Conditions of a filter decide its meaning

The predicates of a filter read the values that the filter has, since no two parameters share a
name. So testing them never fails, and tells what the filter admits.

## Main definitions

* `Binds` — bindings give every fragment its value.
* `Filter.fragments`, `Filter.compiled` — all fragments of a filter and what it comes down to.

## Main statements

* `Filter.conditions_some` — a filter always comes down to conditions on a node and a relationship.
* `Filter.binds_bindings` — every fragment finds its value.
* `Filter.answers_matchesNode`, `Filter.answers_matchesRelationship`.
-/

namespace FacetedGraph

/-- Bindings give the parameter of every fragment its value. -/
def Binds (bindings : Properties) (fragments : List Fragment) : Prop :=
  ∀ p ∈ fragments, Fields.get? bindings p.1.parameter = some p.2

theorem Binds.append {bindings : Properties} {ps qs : List Fragment} :
    Binds bindings (ps ++ qs) ↔ Binds bindings ps ∧ Binds bindings qs :=
  List.forall_mem_append

/-! ## Single predicates -/

/-- What a bound asks of a stored value. -/
def Bound.Admits (bound : Bound) (limit v : Value) : Prop :=
  match bound with
  | .min => v.compare limit = some .gt ∨ v.compare limit = some .eq
  | .max => v.compare limit = some .lt ∨ v.compare limit = some .eq

namespace Predicate

variable {bindings : Properties} {parameter : String}

theorem binding_ok {v : Value} (h : Fields.get? bindings parameter = some v) :
    binding bindings parameter = .ok v := by
  rw [binding, h]

section Texts

variable {texts : List String}
  (h : Fields.get? bindings parameter = some (.ofStrings texts))

include h

theorem answers_propertyIn (n : Node) (var : String) (keys : List String) :
    Answers (matchesNode bindings n (.propertyIn var keys parameter))
      (∃ key ∈ keys, ∃ v, n.get? key = some v ∧ ∃ s ∈ texts, v.Holds s) := by
  refine ⟨_, by rw [matchesNode, Predicate.parameter, binding_ok h]; rfl, ?_⟩
  simp only [List.any_eq_true, Option.any_eq_true, Value.ofStrings, Value.elements,
    Value.matchesAny_strings]

theorem answers_labelIn (n : Node) (var : String) :
    Answers (matchesNode bindings n (.labelIn var parameter)) (∃ s ∈ texts, s ∈ n.labels) := by
  refine ⟨_, by rw [matchesNode, Predicate.parameter, binding_ok h]; rfl, ?_⟩
  simp only [List.any_eq_true, Value.ofStrings, Value.elements, Value.isIn_strings]
  constructor
  · rintro ⟨s, hs, _, htext, heq⟩
    cases heq
    exact ⟨s, htext, hs⟩
  · rintro ⟨s, htext, hs⟩
    exact ⟨s, hs, s, htext, rfl⟩

theorem answers_identifier (n : Node) (var : String) (kind : EntityKind) :
    Answers (matchesNode bindings n (.identifier var kind parameter))
      (kind.label ∈ n.labels ∧
        ∃ s ∈ texts, n.get? "name" = some (.string s) ∨ n.id.text = s) := by
  refine ⟨_, by rw [matchesNode, Predicate.parameter, binding_ok h]; rfl, ?_⟩
  simp only [identifies, Node.hasLabel, Bool.and_eq_true, Bool.or_eq_true,
    List.contains_iff_mem, Option.any_eq_true, Value.ofStrings, Value.elements,
    Value.isIn_strings]
  refine and_congr_right fun _ => ?_
  constructor
  · rintro (⟨v, hv, s, hs, rfl⟩ | ⟨s, hs, heq⟩)
    · exact ⟨s, hs, .inl hv⟩
    · exact ⟨s, hs, .inr (Value.string.inj heq)⟩
  · rintro ⟨s, hs, hv | rfl⟩
    · exact .inl ⟨_, hv, s, hs, rfl⟩
    · exact .inr ⟨_, hs, rfl⟩

theorem answers_relationPropertyIn (r : Relationship) (var key : String) :
    Answers (matchesRelationship bindings r (.relationPropertyIn var key parameter))
      (∃ s ∈ texts, r.get? key = some (.string s)) := by
  refine ⟨_, by rw [matchesRelationship, binding_ok h]; rfl, ?_⟩
  simp only [Option.any_eq_true, Value.ofStrings, Value.elements, Value.isIn_strings]
  constructor
  · rintro ⟨v, hv, s, hs, rfl⟩
    exact ⟨s, hs, hv⟩
  · rintro ⟨s, hs, hv⟩
    exact ⟨_, hv, s, hs, rfl⟩

end Texts

theorem withinBound_eq_true (bound : Bound) (limit v : Value) :
    withinBound bound limit v = true ↔ Bound.Admits bound limit v := by
  unfold withinBound Bound.Admits
  cases bound <;> rcases v.compare limit with _ | _ | _ | _ <;> simp

/-- The value that a bound is checked against: what is stored, or the number that it spells. -/
def boundReading (cast : Bool) (v : Value) : Option Value :=
  if cast then v.toFloat.map .float else some v

theorem bind_boundReading_true {stored : Option Value} {v : Value} :
    stored.bind (boundReading true) = some v ↔
      ∃ w x, stored = some w ∧ w.toFloat = some x ∧ v = .float x := by
  simp only [Option.bind_eq_some_iff, boundReading, if_true, Option.map_eq_some_iff]
  constructor
  · rintro ⟨w, hw, x, hx, rfl⟩
    exact ⟨w, x, hw, hx, rfl⟩
  · rintro ⟨w, x, hw, hx, rfl⟩
    exact ⟨w, hw, x, hx, rfl⟩

theorem bind_boundReading_false {stored : Option Value} {v : Value} :
    stored.bind (boundReading false) = some v ↔ stored = some v := by
  cases stored <;> simp [boundReading]

theorem answers_relationBound {limit : Value}
    (h : Fields.get? bindings parameter = some limit) (r : Relationship) (var key : String)
    (bound : Bound) (cast : Bool) :
    Answers (matchesRelationship bindings r (.relationBound var key bound parameter cast))
      (∃ v, (r.get? key).bind (boundReading cast) = some v ∧ Bound.Admits bound limit v) := by
  refine ⟨_, by rw [matchesRelationship, binding_ok h]; rfl, ?_⟩
  cases cast <;> cases r.get? key <;>
    simp [boundReading, withinBound_eq_true, Option.any_eq_true]

end Predicate

/-! ## Fragments of one dimension -/

namespace Filter

variable {bindings : Properties} {test : Predicate → Except Error Bool}

/-- A dimension without values has no fragment and asks nothing. -/
theorem answers_textFragment {predicate : Predicate} {texts : List String} {p : Prop}
    (hbinds : Binds bindings (textFragment predicate texts).toList)
    (htest : Fields.get? bindings predicate.parameter = some (.ofStrings texts) →
      Answers (test predicate) p) :
    Answers (((textFragment predicate texts).toList.map Prod.fst).allM test) (texts = [] ∨ p) := by
  cases texts with
  | nil => exact Answers.nil.congr (by simp)
  | cons s rest =>
    have hbound := hbinds _ (by simp [textFragment]; rfl)
    exact (Answers.singleton (htest hbound)).congr (by simp)

/-- A family of dimensions asks what each of them asks. -/
theorem answers_textFragments {δ : Type} (dims : List δ) (predicate : δ → Predicate)
    (texts : δ → List String) {p : δ → Prop}
    (hbinds : Binds bindings (dims.filterMap fun d => textFragment (predicate d) (texts d)))
    (htest : ∀ d, Fields.get? bindings (predicate d).parameter = some (.ofStrings (texts d)) →
      Answers (test (predicate d)) (p d)) :
    Answers
      (((dims.filterMap fun d => textFragment (predicate d) (texts d)).map Prod.fst).allM test)
      (∀ d ∈ dims, texts d = [] ∨ p d) := by
  rw [List.filterMap_eq_flatMap_toList] at hbinds ⊢
  rw [List.map_flatMap]
  refine Answers.flatMap fun d hd => answers_textFragment (fun q hq => ?_) (htest d)
  exact hbinds q (List.mem_flatMap.2 ⟨d, hd, hq⟩)

/-- A bound that is missing has no fragment and asks nothing. -/
theorem answers_boundFragment {α : Type} {predicate : Predicate} {value : α → Value}
    {limit : Option α} {p : Value → Prop}
    (hbinds : Binds bindings (limit.map fun a => (predicate, value a)).toList)
    (htest : ∀ a, Fields.get? bindings predicate.parameter = some (value a) →
      Answers (test predicate) (p (value a))) :
    Answers (((limit.map fun a => (predicate, value a)).toList.map Prod.fst).allM test)
      (∀ a, limit = some a → p (value a)) := by
  cases limit with
  | none => exact Answers.nil.congr (by simp)
  | some a =>
    have hbound := hbinds (predicate, value a) (by simp)
    exact (Answers.singleton (htest a hbound)).congr (by simp)

/-- A range contains what is read where each of its bounds admits it. -/
theorem exists_contains_iff {α : Type} {value : α → Value} {r : NumericRange α}
    {reading : Option Value} :
    (r.isUnbounded = false → ∃ v, reading = some v ∧ r.Contains value v) ↔
      (∀ a, r.min = some a → ∃ v, reading = some v ∧ Bound.Admits .min (value a) v) ∧
        ∀ a, r.max = some a → ∃ v, reading = some v ∧ Bound.Admits .max (value a) v := by
  constructor
  · intro hall
    constructor <;> intro a ha
    · obtain ⟨v, hv, hcontains⟩ := hall (by simp [NumericRange.isUnbounded, ha])
      exact ⟨v, hv, hcontains.min a ha⟩
    · obtain ⟨v, hv, hcontains⟩ := hall (by simp [NumericRange.isUnbounded, ha])
      exact ⟨v, hv, hcontains.max a ha⟩
  · rintro ⟨hlow, hhigh⟩ hbounded
    -- one of the bounds is there, so something is read
    obtain ⟨v, rfl⟩ : ∃ v, reading = some v := by
      cases hm : r.min with
      | some a =>
        obtain ⟨v, hv, _⟩ := hlow a hm
        exact ⟨v, hv⟩
      | none =>
        cases hx : r.max with
        | some a =>
          obtain ⟨v, hv, _⟩ := hhigh a hx
          exact ⟨v, hv⟩
        | none => simp [NumericRange.isUnbounded, hm, hx] at hbounded
    refine ⟨v, rfl, ⟨fun a ha => ?_, fun a ha => ?_⟩⟩
    · obtain ⟨w, hw, hadmits⟩ := hlow a ha
      cases hw
      exact hadmits
    · obtain ⟨w, hw, hadmits⟩ := hhigh a ha
      cases hw
      exact hadmits

/-- A range asks what the bounds ask that it has. -/
theorem answers_rangeFragments {α : Type} {var key stem : String} {cast : Bool}
    {value : α → Value} {range : Option (NumericRange α)} {reading : Option Value}
    (hbinds : Binds bindings (rangeFragments var key stem cast value range))
    (htest : ∀ bound limit parameter, Fields.get? bindings parameter = some limit →
      Answers (test (.relationBound var key bound parameter cast))
        (∃ v, reading = some v ∧ Bound.Admits bound limit v)) :
    Answers (((rangeFragments var key stem cast value range).map Prod.fst).allM test)
      (∀ r, range = some r → r.isUnbounded = false →
        ∃ v, reading = some v ∧ r.Contains value v) := by
  cases range with
  | none => exact Answers.nil.congr (by simp)
  | some r =>
    obtain ⟨hmin, hmax⟩ := Binds.append.1 hbinds
    rw [rangeFragments, List.map_append]
    have hlow := answers_boundFragment (p := fun limit => ∃ v, reading = some v ∧
      Bound.Admits .min limit v) hmin fun a => htest .min (value a) _
    have hhigh := answers_boundFragment (p := fun limit => ∃ v, reading = some v ∧
      Bound.Admits .max limit v) hmax fun a => htest .max (value a) _
    refine (hlow.append hhigh).congr ?_
    simp only [Option.some.injEq, forall_eq', exists_contains_iff]

/-! ## All fragments of a filter -/

variable (f : Filter) (subject var : String)

/-- The dimensions of accepted texts on relationships: property, parameter and texts. -/
def relationTexts : List (String × String × List String) :=
  [("rating_change", "rating_changes", f.ratingChanges),
    ("rankgroup", "rank_groups", f.rankGroups), ("rankvalue", "rank_values", f.rankValues)]

/-- What a filter comes down to where the query binds a relationship. -/
def compiled : Conditions where
  node := (f.nodeFragments subject).map Prod.fst
  relation := (f.relationFragments var).map Prod.fst
  bindings := bindingsOf (f.nodeFragments subject ++ f.relationFragments var)

theorem textFragment_eq_none {predicate : Predicate} {texts : List String} :
    textFragment predicate texts = none ↔ texts.isEmpty := by
  unfold textFragment
  split <;> simp_all

theorem rangeFragments_eq_nil {α : Type} {key stem : String} {cast : Bool} {value : α → Value}
    {range : Option (NumericRange α)} :
    rangeFragments var key stem cast value range = [] ↔ bounded range = false := by
  obtain _ | ⟨_ | _, _ | _⟩ := range <;>
    simp [rangeFragments, bounded, NumericRange.isUnbounded]

/-- There are fragments on relationships exactly when a rating or rank dimension is in use. -/
theorem relationFragments_eq_nil :
    f.relationFragments var = [] ↔ f.constrainsRelationships = false := by
  simp only [relationFragments, constrainsRelationships, List.append_eq_nil_iff,
    rangeFragments_eq_nil, List.filterMap_eq_nil_iff, List.forall_mem_cons, id_eq,
    textFragment_eq_none, Bool.or_eq_false_iff, Bool.not_eq_false']
  simp only [List.not_mem_nil, false_imp_iff, implies_true, and_true]
  tauto

theorem nodeFragments_eq_nil : f.nodeFragments subject = [] ↔ f.constrainsNodes = false := by
  simp only [nodeFragments, constrainsNodes, List.append_eq_nil_iff, Option.toList_eq_nil_iff,
    List.filterMap_eq_nil_iff, textFragment_eq_none, List.isEmpty_map, Bool.or_eq_false_iff,
    List.any_eq_false, Bool.not_eq_true', Bool.not_eq_false, Bool.not_eq_false',
    and_right_comm]

theorem conditions_some : f.conditions subject (some var) = .ok (f.compiled subject var) := by
  unfold conditions compiled
  cases h : f.constrainsRelationships with
  | true => rfl
  | false => simp [(f.relationFragments_eq_nil var).2 h]

theorem isRelational_compiled :
    (f.compiled subject var).isRelational = f.constrainsRelationships := by
  have hnil := f.relationFragments_eq_nil var
  cases h : f.constrainsRelationships <;>
    simp_all [Conditions.isRelational, compiled]

/-! ## Parameters -/

/-- The parameters of all dimensions, in the order of their fragments. -/
def parameterNames : List String :=
  ["entity_types"] ++ NodeDimension.all.map NodeDimension.parameter ++
    EntityKind.all.map EntityKind.parameter ++
    (["rating_min", "rating_max"] ++ ["rating_changes", "rank_groups", "rank_values"] ++
      ["rank_order_min", "rank_order_max"])

theorem nodup_parameterNames : parameterNames.Nodup := by decide

/-- The parameters that fragments read. -/
def parametersOf (fragments : List Fragment) : List String :=
  fragments.map fun p => p.1.parameter

theorem parametersOf_textFragments {δ : Type} (dims : List δ) (predicate : δ → Predicate)
    (texts : δ → List String) :
    (parametersOf (dims.filterMap fun d => textFragment (predicate d) (texts d))).Sublist
      (dims.map fun d => (predicate d).parameter) := by
  induction dims with
  | nil => exact .slnil
  | cons d rest ih =>
    rw [List.filterMap_cons]
    unfold textFragment
    split
    · rename_i hnone
      exact ih.cons _
    · rename_i fragment hsome
      split at hsome
      · cases hsome
      · cases hsome
        exact ih.cons_cons _

theorem parametersOf_rangeFragments {α : Type} (key stem : String) (cast : Bool)
    (value : α → Value) (range : Option (NumericRange α)) :
    (parametersOf (rangeFragments var key stem cast value range)).Sublist
      [stem ++ "_min", stem ++ "_max"] := by
  obtain _ | ⟨_ | _, _ | _⟩ := range <;> simp [rangeFragments, parametersOf, Predicate.parameter]

theorem parametersOf_fragments :
    (parametersOf (f.nodeFragments subject ++ f.relationFragments var)).Sublist
      parameterNames := by
  have append {ps qs : List Fragment} :
      parametersOf (ps ++ qs) = parametersOf ps ++ parametersOf qs := List.map_append
  simp only [nodeFragments, relationFragments, append]
  refine ((?_ : List.Sublist _ _).append ?_ |>.append ?_).append ((?_ : List.Sublist _ _).append ?_
    |>.append ?_)
  · exact parametersOf_textFragments [()] (fun _ => .labelIn subject "entity_types")
      fun _ => f.entityKinds.map EntityKind.label
  · exact parametersOf_textFragments NodeDimension.all _ _
  · exact parametersOf_textFragments EntityKind.all _ _
  · exact parametersOf_rangeFragments var "rankvalue" "rating" true Value.float _
  · exact parametersOf_textFragments f.relationTexts (fun d => .relationPropertyIn var d.1 d.2.1)
      fun d => d.2.2
  · exact parametersOf_rangeFragments var "rankorder" "rank_order" false Value.int _

/-- No two dimensions share a parameter, so each finds its own values. -/
theorem binds_compiled :
    Binds (f.compiled subject var).bindings
      (f.nodeFragments subject ++ f.relationFragments var) := by
  intro p hp
  refine Fields.get?_ofList_of_mem ?_ (List.mem_map_of_mem (f := fun p => (p.1.parameter, p.2)) hp)
  rw [List.map_map]
  exact (f.parametersOf_fragments subject var).nodup nodup_parameterNames

/-! ## Tests of all predicates -/

theorem answers_matchesNode (n : Node) :
    Answers ((f.compiled subject var).matchesNode n) (f.Admits n) := by
  obtain ⟨hnode, -⟩ := Binds.append.1 (f.binds_compiled subject var)
  rw [nodeFragments, Binds.append, Binds.append] at hnode
  obtain ⟨⟨hkinds, hproperties⟩, hentities⟩ := hnode
  have kinds := answers_textFragment hkinds fun h => Predicate.answers_labelIn h n subject
  have properties := answers_textFragments _ _ _ hproperties fun d h =>
    Predicate.answers_propertyIn h n subject d.keys
  have entities := answers_textFragments _ _ _ hentities fun k h =>
    Predicate.answers_identifier h n subject k
  rw [Conditions.matchesNode, compiled, nodeFragments, List.map_append, List.map_append]
  refine ((kinds.append properties).append entities).congr ?_
  rw [admits_iff]
  constructor
  · rintro ⟨⟨hkinds, hproperties⟩, hentities⟩
    refine ⟨?_, fun d => hproperties d (by cases d <;> decide),
      fun k => hentities k (by cases k <;> decide)⟩
    simpa using hkinds
  · rintro ⟨hkinds, hproperties, hentities⟩
    refine ⟨⟨?_, fun d _ => hproperties d⟩, fun k _ => hentities k⟩
    simpa using hkinds

theorem answers_matchesRelationship (r : Relationship) :
    Answers ((f.compiled subject var).matchesRelationship r) (f.AdmitsRelationship r) := by
  obtain ⟨-, hrelation⟩ := Binds.append.1 (f.binds_compiled subject var)
  rw [relationFragments, Binds.append, Binds.append] at hrelation
  obtain ⟨⟨hrating, htexts⟩, horder⟩ := hrelation
  have rating := answers_rangeFragments hrating fun bound limit parameter h =>
    Predicate.answers_relationBound h r var "rankvalue" bound true
  have order := answers_rangeFragments horder fun bound limit parameter h =>
    Predicate.answers_relationBound h r var "rankorder" bound false
  have texts := answers_textFragments f.relationTexts (fun d => .relationPropertyIn var d.1 d.2.1)
    (fun d => d.2.2) htexts fun d h => Predicate.answers_relationPropertyIn h r var d.1
  rw [Conditions.matchesRelationship, compiled, relationFragments, List.map_append,
    List.map_append]
  refine ((rating.append texts).append order).congr ?_
  simp only [relationTexts, List.forall_mem_cons, List.not_mem_nil, false_imp_iff, implies_true,
    and_true, Predicate.bind_boundReading_true, Predicate.bind_boundReading_false]
  constructor
  · rintro ⟨⟨hrating, hchange, hgroup, hrank⟩, horder⟩
    refine ⟨fun range hrange hbounded => ?_, hchange, hgroup, hrank, horder⟩
    obtain ⟨_, ⟨v, x, hv, hx, rfl⟩, hcontains⟩ := hrating range hrange hbounded
    exact ⟨v, x, hv, hx, hcontains⟩
  · rintro ⟨hrating, hchange, hgroup, hrank, horder⟩
    refine ⟨⟨fun range hrange hbounded => ?_, hchange, hgroup, hrank⟩, horder⟩
    obtain ⟨v, x, hv, hx, hcontains⟩ := hrating range hrange hbounded
    exact ⟨_, ⟨v, x, hv, hx, rfl⟩, hcontains⟩

end Filter

end FacetedGraph
