import FacetedGraph.Graph.Match
import FacetedGraph.Proofs.Filter.Conditions
import FacetedGraph.Query.Text

/-!
# A membership test and its spelling

The test whether a property holds one of the accepted values is also spelled out in the text of a
query, as clauses of two kinds. Nodes are not tested in quite the way that the clauses have it: a
list is accepted for its items only, while one of the clauses accepts it as a whole, too. That
takes a list among the accepted values, which no filter has.

## Main definitions

* `Clause`, with `Clause.text` and `Clause.Holds` — what is written, and what it says of a node.
* `Predicate.clauses` — the clauses that spell out a membership test.

## Main statements

* `Template.render_propertyIn` — the text of a membership test is made up of its clauses.
* `Value.matchesAny_iff` — a stored value is accepted for one of its elements.
* `Predicate.matchesNode_iff_clauses` — where the test of a node and the clauses agree.
* `Predicate.matchesNode_wholeList` — a list that only the clauses accept.
-/

namespace FacetedGraph

/-- A condition on a property, as queries spell it. -/
inductive Clause
  /-- The property is an accepted value. -/
  | isIn (key parameter : String)
  /-- Something in the property, taken as a list, is an accepted value. -/
  | someIsIn (key parameter : String)

namespace Clause

/-- The clause as it is written of a variable. -/
def text (var : String) : Clause → String
  | isIn key parameter => Template.property var key ++ " IN " ++ "$" ++ parameter
  | someIsIn key parameter =>
    "any(x IN " ++ Template.listShape (Template.property var key) ++ " WHERE x IN " ++ "$" ++
      parameter ++ ")"

/-- What the clause says of a node. Of a property that the node lacks it says nothing true. -/
def Holds (bindings : Properties) (n : Node) : Clause → Prop
  | isIn key parameter => ∃ v, n.get? key = some v ∧
    ∃ accepted, Fields.get? bindings parameter = some (.list accepted) ∧ v.isIn accepted
  | someIsIn key parameter => ∃ v, n.get? key = some v ∧
    ∃ accepted, Fields.get? bindings parameter = some (.list accepted) ∧
      ∃ e ∈ v.elements, e.isIn accepted

end Clause

/-- The clauses that spell out whether one of the properties holds an accepted value. -/
def Predicate.clauses (keys : List String) (parameter : String) : List Clause :=
  keys.flatMap fun key => [.isIn key parameter, .someIsIn key parameter]

/-! ## Texts -/

/-- Texts in pairs are joined like texts, each of them a joined pair. -/
theorem intercalate_flatMap_pair {α : Type} (separator : String) (f g : α → String)
    (items : List α) :
    separator.intercalate (items.flatMap fun a => [f a, g a]) =
      separator.intercalate (items.map fun a => f a ++ separator ++ g a) := by
  induction items with
  | nil => rfl
  | cons a rest ih =>
    cases rest with
    | nil => simp [String.intercalate_cons_cons]
    | cons b rest =>
      simp only [List.flatMap_cons, List.map_cons, List.cons_append, List.nil_append,
        String.intercalate_cons_cons, String.append_assoc] at ih ⊢
      rw [ih]

namespace Template

theorem render_append (t u : Template) : (t ++ u).render = t.render ++ u.render := by
  simp [render, String.join_append]

theorem render_cons_fixed (text : String) (t : Template) :
    render (.fixed text :: t) = text ++ t.render := by
  simp [render, Piece.render]

theorem render_joined (separator : String) (ts : List Template) :
    (joined separator ts).render = separator.intercalate (ts.map render) := by
  induction ts with
  | nil => rfl
  | cons t ts ih =>
    cases ts with
    | nil => simp [joined]
    | cons u us =>
      have hjoined : joined separator (t :: u :: us) =
          t ++ .fixed separator :: joined separator (u :: us) := rfl
      rw [hjoined, render_append, render_cons_fixed, ih]
      simp only [List.map_cons, String.intercalate_cons_cons, String.append_assoc]

theorem render_propertyHolds (var key parameter : String) :
    (propertyHolds (property var key) parameter).render =
      (Clause.isIn key parameter).text var ++ " OR " ++
        (Clause.someIsIn key parameter).text var := by
  have hor : " OR any(x IN " = " OR " ++ "any(x IN " := rfl
  simp only [propertyHolds, render, Piece.render, Clause.text, List.map_cons, List.map_nil,
    String.join_cons, String.join_nil, String.append_empty, String.append_assoc, hor]

/-- The text of a membership test is made up of its clauses. -/
theorem render_propertyIn (var : String) (keys : List String) (parameter : String) :
    (predicate (.propertyIn var keys parameter)).render =
      "(" ++ " OR ".intercalate ((Predicate.clauses keys parameter).map (Clause.text var)) ++
        ")" := by
  have hclauses : (Predicate.clauses keys parameter).map (Clause.text var) = keys.flatMap fun key =>
      [(Clause.isIn key parameter).text var, (Clause.someIsIn key parameter).text var] := by
    rw [Predicate.clauses, List.map_flatMap]
    rfl
  have hjoined : (joined " OR " (keys.map fun key =>
      propertyHolds (property var key) parameter)).render = " OR ".intercalate (keys.map fun key =>
        (Clause.isIn key parameter).text var ++ " OR " ++
          (Clause.someIsIn key parameter).text var) := by
    rw [render_joined, List.map_map]
    exact congrArg _ (List.map_congr_left fun key _ => render_propertyHolds var key parameter)
  rw [predicate, ← List.singleton_append, render_append, render_append, hjoined, hclauses,
    intercalate_flatMap_pair]
  rfl

end Template

/-! ## Membership -/

namespace Value

variable {v a : Value} {accepted items : List Value}

/-- A stored value is accepted for one of its elements. -/
theorem matchesAny_iff : v.matchesAny accepted ↔ ∃ e ∈ v.elements, e.isIn accepted := by
  cases v <;> simp [matchesAny, elements]

/-- What is accepted as a whole and for none of its elements is a list. -/
theorem isIn_cases (h : v.isIn accepted) :
    (∃ e ∈ v.elements, e.isIn accepted) ∨ ∃ items, v = .list items := by
  cases v with
  | null => simp [isIn, equivalent, isNull] at h
  | list items => exact .inr ⟨items, rfl⟩
  | _ => exact .inl ⟨_, List.mem_singleton_self _, h⟩

/-- Only a list equals a list. -/
theorem isList_of_equivalent (h : (list items).equivalent a) : a.isList := by
  cases a <;> simp_all [equivalent, isNull, isNumber, same, isList]

theorem not_isIn_of_isList (hnone : ∀ a ∈ accepted, a.isList = false) :
    ¬ (list items).isIn accepted := by
  intro h
  obtain ⟨a, ha, hequivalent⟩ := List.any_eq_true.1 h
  have hlist := isList_of_equivalent hequivalent
  rw [hnone a ha] at hlist
  cases hlist

end Value

namespace Predicate

variable {bindings : Properties} {parameter : String} {accepted : List Value}

theorem mem_clauses {keys : List String} {c : Clause} :
    c ∈ clauses keys parameter ↔
      ∃ key ∈ keys, c = .isIn key parameter ∨ c = .someIsIn key parameter := by
  simp [clauses]

section Bound

variable (h : Fields.get? bindings parameter = some (.list accepted)) (n : Node)

include h

theorem holds_isIn (key : String) : (Clause.isIn key parameter).Holds bindings n ↔
    ∃ v, n.get? key = some v ∧ v.isIn accepted := by
  simp [Clause.Holds, h]

theorem holds_someIsIn (key : String) : (Clause.someIsIn key parameter).Holds bindings n ↔
    ∃ v, n.get? key = some v ∧ ∃ e ∈ v.elements, e.isIn accepted := by
  simp [Clause.Holds, h]

/-- The test of a node is that of the second kind of clauses. -/
theorem answers_someIsIn (var : String) (keys : List String) :
    Answers (matchesNode bindings n (.propertyIn var keys parameter))
      (∃ key ∈ keys, (Clause.someIsIn key parameter).Holds bindings n) := by
  refine ⟨_, by rw [matchesNode, Predicate.parameter, binding_ok h]; rfl, ?_⟩
  simp only [List.any_eq_true, Option.any_eq_true, Value.elements, Value.matchesAny_iff,
    holds_someIsIn h]

/-- One of the clauses holds where something in a property is accepted, or a list as a whole. -/
theorem exists_clause_iff (keys : List String) :
    (∃ c ∈ clauses keys parameter, c.Holds bindings n) ↔
      (∃ key ∈ keys, (Clause.someIsIn key parameter).Holds bindings n) ∨
        ∃ key ∈ keys, ∃ items, n.get? key = some (.list items) ∧
          (Value.list items).isIn accepted := by
  constructor
  · rintro ⟨c, hc, hholds⟩
    obtain ⟨key, hkey, rfl | rfl⟩ := mem_clauses.1 hc
    · obtain ⟨v, hv, hin⟩ := (holds_isIn h n key).1 hholds
      rcases Value.isIn_cases hin with helement | ⟨items, rfl⟩
      · exact .inl ⟨key, hkey, (holds_someIsIn h n key).2 ⟨v, hv, helement⟩⟩
      · exact .inr ⟨key, hkey, items, hv, hin⟩
    · exact .inl ⟨key, hkey, hholds⟩
  · rintro (⟨key, hkey, hholds⟩ | ⟨key, hkey, items, hv, hin⟩)
    · exact ⟨_, mem_clauses.2 ⟨key, hkey, .inr rfl⟩, hholds⟩
    · exact ⟨_, mem_clauses.2 ⟨key, hkey, .inl rfl⟩, (holds_isIn h n key).2 ⟨_, hv, hin⟩⟩

/-- The text of a membership test is made up of clauses on each property. Nodes are accepted for
one of the elements of a property, while the clauses hold also of a node with a list that is an
accepted value as a whole. Where no accepted value is a list, test and clauses agree. -/
theorem matchesNode_iff_clauses (var : String) (keys : List String) :
    (Template.predicate (.propertyIn var keys parameter)).render =
        "(" ++ " OR ".intercalate ((clauses keys parameter).map (Clause.text var)) ++ ")" ∧
      ∃ accepts : Bool, matchesNode bindings n (.propertyIn var keys parameter) = .ok accepts ∧
        (accepts ↔ ∃ key ∈ keys, ∃ v, n.get? key = some v ∧ ∃ e ∈ v.elements, e.isIn accepted) ∧
        ((∃ c ∈ clauses keys parameter, c.Holds bindings n) ↔
          accepts ∨ ∃ key ∈ keys, ∃ items, n.get? key = some (.list items) ∧
            (Value.list items).isIn accepted) ∧
        ((∀ a ∈ accepted, a.isList = false) →
          ((∃ c ∈ clauses keys parameter, c.Holds bindings n) ↔ accepts)) := by
  obtain ⟨accepts, hok, haccepts⟩ := answers_someIsIn h n var keys
  have hclauses := (exists_clause_iff h n keys).trans (or_congr_left haccepts.symm)
  refine ⟨Template.render_propertyIn var keys parameter, accepts, hok, ?_, hclauses,
    fun hnone => ?_⟩
  · simp only [haccepts, holds_someIsIn h]
  · refine hclauses.trans (or_iff_left ?_)
    rintro ⟨_, _, _, _, hin⟩
    exact Value.not_isIn_of_isList hnone hin

end Bound

/-- A company with a list of regions. -/
def regional : Node := ⟨⟨0⟩, ["COMPANY"], [("region", .ofStrings ["EMEA", "APAC"])]⟩

/-- One of the accepted values is a region. -/
def oneRegion : Properties := [("regions", .list [.string "APAC", .int 7])]

/-- The accepted value is a list of regions. -/
def bothRegions : Properties := [("regions", .list [.ofStrings ["EMEA", "APAC"]])]

/-- One accepted region is enough, and the clauses say so too. -/
theorem matchesNode_iff_clauses_regional :
    Fields.get? oneRegion "regions" = some (.list [.string "APAC", .int 7]) ∧
      matchesNode oneRegion regional (.propertyIn "n" ["sales_region", "region"] "regions") =
        .ok true ∧
      ∃ c ∈ clauses ["sales_region", "region"] "regions", c.Holds oneRegion regional := by
  have hbound : Fields.get? oneRegion "regions" = some (.list [.string "APAC", .int 7]) := rfl
  have hnone : ∀ a ∈ [Value.string "APAC", .int 7], a.isList = false := by simp [Value.isList]
  obtain ⟨-, accepts, hok, haccepts, -, hagree⟩ :=
    matchesNode_iff_clauses hbound regional "n" ["sales_region", "region"]
  have htrue : accepts = true :=
    haccepts.2 ⟨"region", by simp, _, rfl, .string "APAC",
      by simp [Value.ofStrings, Value.elements], by decide⟩
  rw [htrue] at hok hagree
  exact ⟨hbound, hok, (hagree hnone).2 rfl⟩

/-- A list that is an accepted value satisfies a clause, but the node that holds it is refused. -/
theorem matchesNode_wholeList :
    (∃ c ∈ clauses ["region"] "regions", c.Holds bothRegions regional) ∧
      matchesNode bothRegions regional (.propertyIn "n" ["region"] "regions") = .ok false ∧
      (Value.ofStrings ["EMEA", "APAC"]).isIn [.ofStrings ["EMEA", "APAC"]] = true ∧
      (Value.ofStrings ["EMEA", "APAC"]).matchesAny [.ofStrings ["EMEA", "APAC"]] = false := by
  have hin : (Value.ofStrings ["EMEA", "APAC"]).isIn [.ofStrings ["EMEA", "APAC"]] = true := by
    decide
  refine ⟨⟨.isIn "region" "regions", ?_, _, rfl, _, rfl, hin⟩, rfl, hin, by decide⟩
  exact mem_clauses.2 ⟨_, List.mem_singleton_self _, .inl rfl⟩

end Predicate

end FacetedGraph
