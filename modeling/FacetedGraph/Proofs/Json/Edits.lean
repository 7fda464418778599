import FacetedGraph.Json.Decode
import FacetedGraph.Proofs.Fields
import Mathlib.Data.List.Pairwise
import Mathlib.Logic.Relation
import Mathlib.Tactic.Common

/-!
# Objects written in another way

An object can be written in many ways: a field may go under another name that is known of it, it may
be left out where it says what is taken without it, fields may come in any order, and names that
nobody asks for may be added. What is read is always the same, as long as no name is known of two
fields.

## Main definitions

* `Json.FieldRule` — how a field may be written.
* `Json.Edit` — one change to the fields of an object.
* `Json.Rewritten` — an object after any number of changes.
* `Json.Carries` — what all ways to write a field have in common.
* `Json.Found` — what looking the field up gives.

## Main statements

* `Json.Edit.carries` — a change keeps what is said in a field.
* `Json.Rewritten.found` — after any number of them the field is found.
* `Json.rewritten_record` — an object given field by field is written in one of the ways.
* `Json.lookup_eq_none` — a field under two names is refused.
-/

namespace FacetedGraph

namespace Json

/-- How a field may be written: under its name or another one, or not at all if it has the default
value. -/
structure FieldRule where
  name : String
  aliases : List String := []
  default : Json

namespace FieldRule

def names (rule : FieldRule) : List String := rule.name :: rule.aliases

/-- A list of texts, which is empty where it is missing. -/
def texts (name : String) (aliases : List String) : FieldRule := ⟨name, aliases, .strings []⟩

/-- A value that may be absent. -/
def optional (name : String) : FieldRule := ⟨name, [], .null⟩

end FieldRule

/-- The fields of an object are changed without a change of meaning. -/
inductive Edit (rules : List FieldRule) : Fields Json → Fields Json → Prop
  | rename (before after : Fields Json) (j : Json) {rule : FieldRule} {used other : String} :
      rule ∈ rules → used ∈ rule.names → other ∈ rule.names →
      Edit rules (before ++ (used, j) :: after) (before ++ (other, j) :: after)
  | drop (before after : Fields Json) {rule : FieldRule} {used : String} :
      rule ∈ rules → used ∈ rule.names →
      Edit rules (before ++ (used, rule.default) :: after) (before ++ after)
  | reorder {fields others : Fields Json} : fields.Perm others → Edit rules fields others
  | add (before after : Fields Json) (j : Json) {unknown : String} :
      (∀ rule ∈ rules, unknown ∉ rule.names) →
      Edit rules (before ++ after) (before ++ (unknown, j) :: after)

/-- The fields of an object under their own names. -/
def canonical (entries : List (FieldRule × Json)) : Fields Json :=
  entries.map fun e => (e.1.name, e.2)

/-- A tree is an object with the given fields, written in whatever way. -/
def Rewritten (entries : List (FieldRule × Json)) (j : Json) : Prop :=
  ∃ fields, Relation.ReflTransGen (Edit (entries.map Prod.fst)) (canonical entries) fields ∧
    j = .object fields

/-! ## What a field says -/

/-- The values under the names of a field. -/
def held (rule : FieldRule) (fields : Fields Json) : List Json :=
  (fields.filter fun p => p.1 ∈ rule.names).map Prod.snd

/-- A value stands once under the names of a field, or is the default and does not stand there. -/
def Carries (rule : FieldRule) (j : Json) (fields : Fields Json) : Prop :=
  held rule fields = [j] ∨ held rule fields = [] ∧ j = rule.default

variable {rules : List FieldRule} {rule : FieldRule} {fields others : Fields Json} {j : Json}
  {name : String}

theorem held_append (rule : FieldRule) (fields others : Fields Json) :
    held rule (fields ++ others) = held rule fields ++ held rule others := by
  simp [held]

theorem held_cons (rule : FieldRule) (name : String) (j : Json) (fields : Fields Json) :
    held rule ((name, j) :: fields) =
      if name ∈ rule.names then j :: held rule fields else held rule fields := by
  by_cases h : name ∈ rule.names <;> simp [held, h]

theorem held_perm (rule : FieldRule) (h : fields.Perm others) :
    (held rule fields).Perm (held rule others) :=
  (h.filter _).map _

/-! ## Changes keep what fields say -/

/-- Where all names differ, no name belongs to two fields. -/
theorem eq_of_mem_names (hnames : (rules.flatMap FieldRule.names).Nodup) {other : FieldRule}
    (hrule : rule ∈ rules) (hother : other ∈ rules) (h : name ∈ rule.names)
    (h' : name ∈ other.names) : rule = other := by
  by_contra hne
  have : Std.Symm (Function.onFun List.Disjoint FieldRule.names) := ⟨fun _ _ hd _ h h' => hd h' h⟩
  exact (List.nodup_flatMap.1 hnames).2.forall hrule hother hne h h'

theorem Edit.carries (hnames : (rules.flatMap FieldRule.names).Nodup) (hrule : rule ∈ rules)
    (hedit : Edit rules fields others) (h : Carries rule j fields) : Carries rule j others := by
  cases hedit with
  | @rename before after v changed used other hchanged hused hother =>
    have hsame : used ∈ rule.names ↔ other ∈ rule.names :=
      ⟨fun hmem => eq_of_mem_names hnames hchanged hrule hused hmem ▸ hother,
        fun hmem => eq_of_mem_names hnames hchanged hrule hother hmem ▸ hused⟩
    simpa only [Carries, held_append, held_cons, hsame] using h
  | @drop before after changed used hchanged hused =>
    by_cases hmem : used ∈ rule.names
    · obtain rfl := eq_of_mem_names hnames hchanged hrule hused hmem
      simp only [Carries, held_append, held_cons, if_pos hmem] at h ⊢
      rcases h with h | ⟨h, -⟩
      · rcases List.append_eq_singleton_iff.1 h with ⟨hbefore, hafter⟩ | ⟨-, hafter⟩
        · obtain ⟨hdefault, hafter⟩ := List.cons_eq_cons.1 hafter
          exact .inr ⟨by rw [hbefore, hafter, List.append_nil], hdefault.symm⟩
        · cases hafter
      · exact absurd h (by simp)
    · simpa only [Carries, held_append, held_cons, if_neg hmem] using h
  | reorder hperm =>
    have hheld := held_perm rule hperm
    rcases h with h | ⟨h, hdefault⟩
    · exact .inl (List.singleton_perm.1 (h ▸ hheld)).symm
    · exact .inr ⟨(List.nil_perm.1 (h ▸ hheld)), hdefault⟩
  | @add before after v unknown hunknown =>
    simpa only [Carries, held_append, held_cons, if_neg (hunknown rule hrule)] using h

/-- An object says in its fields what it said before all changes. -/
theorem carries_of_edits (hnames : (rules.flatMap FieldRule.names).Nodup) (hrule : rule ∈ rules)
    (hedits : Relation.ReflTransGen (Edit rules) fields others) (h : Carries rule j fields) :
    Carries rule j others := by
  induction hedits with
  | refl => exact h
  | tail _ hedit ih => exact hedit.carries hnames hrule ih

/-! ## Reading fields -/

theorem get?_filter_names (hname : name ∈ rule.names) (fields : Fields Json) :
    Fields.get? (fields.filter fun p => p.1 ∈ rule.names) name = Fields.get? fields name := by
  induction fields with
  | nil => rfl
  | cons p rest ih =>
    obtain ⟨k, v⟩ := p
    by_cases hk : k ∈ rule.names
    · simp [hk, Fields.get?, ih]
    · have hne : k ≠ name := fun heq => hk (heq ▸ hname)
      simp [hk, Fields.get?, hne, ih]

/-- Of the names only those count under which there is a field. -/
theorem filterMap_get?_names (rule : FieldRule) (fields : Fields Json) :
    rule.names.filterMap (Fields.get? fields) =
      rule.names.filterMap (Fields.get? (fields.filter fun p => p.1 ∈ rule.names)) :=
  List.filterMap_congr fun _ hname => (get?_filter_names hname fields).symm

/-- What a field says is found, or is the default and is not there. -/
def Found (rule : FieldRule) (j : Json) (fields : Fields Json) : Prop :=
  lookup fields rule.names = some (some j) ∨
    lookup fields rule.names = some none ∧ j = rule.default

theorem Carries.found (h : Carries rule j fields) (hnames : rule.names.Nodup) :
    Found rule j fields := by
  rw [Found, lookup, filterMap_get?_names]
  rcases h with h | ⟨h, hdefault⟩
  · obtain ⟨⟨k, v⟩, hfields, rfl⟩ := List.map_eq_singleton_iff.1 h
    have hk : k ∈ rule.names := by
      have hmem : (k, v) ∈ fields.filter fun p => p.1 ∈ rule.names := by simp [hfields]
      simpa using (List.mem_filter.1 hmem).2
    obtain ⟨before, after, hsplit⟩ := List.append_of_mem hk
    rw [hsplit, List.nodup_middle, List.nodup_cons] at hnames
    have hnone {names : List String} (hnames : k ∉ names) :
        names.filterMap (Fields.get? [(k, v)]) = [] :=
      List.filterMap_eq_nil_iff.2 fun name hname =>
        if_neg fun heq : k = name => hnames (heq ▸ hname)
    have hhead : Fields.get? [(k, v)] k = some v := if_pos rfl
    refine .inl ?_
    rw [hfields, hsplit, List.filterMap_append, hnone (by grind), List.filterMap_cons_some hhead,
      hnone (by grind)]
    rfl
  · have hnone : rule.names.filterMap (Fields.get? ([] : Fields Json)) = [] :=
      List.filterMap_eq_nil_iff.2 fun _ _ => rfl
    rw [List.map_eq_nil_iff.1 h, hnone]
    exact .inr ⟨rfl, hdefault⟩

theorem Found.withDefault_eq {α : Type} {f : Json → Option α} {a absent : α}
    (h : Found rule j fields) (hj : f j = some a) (hdefault : f rule.default = some absent) :
    withDefault fields rule.names absent f = some a := by
  rw [withDefault]
  rcases h with hsome | ⟨hnone, rfl⟩
  · rw [hsome]
    exact hj
  · rw [hnone]
    exact hdefault.symm.trans hj

/-- A field under two names is refused. -/
theorem lookup_eq_none {names : List String} {a b : String} (ha : a ∈ names) (hb : b ∈ names)
    (hne : a ≠ b) (ha' : a ∈ fields.names) (hb' : b ∈ fields.names) :
    lookup fields names = none := by
  obtain ⟨v, hv⟩ := Fields.exists_get?_eq_some ha'
  obtain ⟨w, hw⟩ := Fields.exists_get?_eq_some hb'
  obtain ⟨before, after, rfl⟩ := List.append_of_mem ha
  have hmem : w ∈ (before ++ after).filterMap (Fields.get? fields) :=
    List.mem_filterMap.2 ⟨b, by grind, hw⟩
  rw [lookup, List.filterMap_append, List.filterMap_cons_some hv]
  rw [List.filterMap_append] at hmem
  split
  case h_1 heq => simp at heq
  case h_2 heq =>
    rcases List.append_eq_singleton_iff.1 heq with ⟨hbefore, hafter⟩ | ⟨-, hafter⟩
    · rw [hbefore, (List.cons_eq_cons.1 hafter).2] at hmem
      cases hmem
    · cases hafter
  case h_3 => rfl

/-! ## Objects written in another way -/

section Entries

variable {entries : List (FieldRule × Json)}

theorem held_canonical_eq_nil (h : ∀ e ∈ entries, e.1.name ∉ rule.names) :
    held rule (canonical entries) = [] := by
  induction entries with
  | nil => rfl
  | cons e rest ih =>
    rw [canonical, List.map_cons, held_cons, if_neg (h e List.mem_cons_self)]
    exact ih fun e' he' => h e' (List.mem_cons_of_mem _ he')

/-- Before all changes an object says what its entries say. -/
theorem carries_canonical (hnames : ((entries.map Prod.fst).flatMap FieldRule.names).Nodup)
    (h : (rule, j) ∈ entries) : Carries rule j (canonical entries) := by
  induction entries with
  | nil => cases h
  | cons e rest ih =>
    rw [List.map_cons, List.flatMap_cons, List.nodup_append'] at hnames
    obtain ⟨-, hrest, hdisjoint⟩ := hnames
    have hname {e' : FieldRule × Json} (he' : e' ∈ rest) {name : String}
        (hname : name ∈ e'.1.names) : name ∉ e.1.names := fun hmem =>
      hdisjoint hmem (List.mem_flatMap.2 ⟨e'.1, List.mem_map_of_mem he', hname⟩)
    rw [canonical, List.map_cons, Carries, held_cons]
    rcases List.mem_cons.1 h with rfl | h
    · have hself : rule.name ∈ rule.names := List.mem_cons_self
      have hnone : held rule (canonical rest) = [] :=
        held_canonical_eq_nil fun e' he' => hname he' List.mem_cons_self
      rw [if_pos hself]
      exact .inl (congrArg _ hnone)
    · have hother : e.1.name ∉ rule.names := fun hmem => hname h hmem List.mem_cons_self
      rw [if_neg hother]
      exact ih hrest h

theorem Rewritten.found (hnames : ((entries.map Prod.fst).flatMap FieldRule.names).Nodup)
    (h : Rewritten entries (.object fields)) : ∀ e ∈ entries, Found e.1 e.2 fields := by
  intro e he
  obtain ⟨edited, hedits, heq⟩ := h
  cases heq
  have hrule : e.1 ∈ entries.map Prod.fst := List.mem_map_of_mem he
  exact (carries_of_edits hnames hrule hedits (carries_canonical hnames he)).found
    ((List.nodup_flatMap.1 hnames).1 e.1 hrule)

theorem names_sublist (rules : List FieldRule) :
    (rules.map FieldRule.name).Sublist (rules.flatMap FieldRule.names) := by
  induction rules with
  | nil => exact .slnil
  | cons rule rest ih => exact (ih.trans (List.sublist_append_right rule.aliases _)).cons_cons _

/-- An object given field by field is one way to write it. -/
theorem rewritten_record (hnames : ((entries.map Prod.fst).flatMap FieldRule.names).Nodup) :
    Rewritten entries (.record (canonical entries)) := by
  have hpairs : ((canonical entries).map Prod.fst).Nodup := by
    have hnodup := hnames.sublist (names_sublist (entries.map Prod.fst))
    rw [canonical, List.map_map]
    rwa [List.map_map] at hnodup
  exact ⟨_, .single (.reorder (Fields.perm_ofList hpairs).symm), rfl⟩

/-- Where an object keeps its order, a field is left out or goes under the name chosen for it. -/
def choosing (name? : FieldRule → Option String) (entries : List (FieldRule × Json)) :
    Fields Json :=
  entries.filterMap fun e => (name? e.1).map (·, e.2)

/-- All choices of names and all omissions of defaults are ways to write an object. -/
theorem rewritten_choosing (name? : FieldRule → Option String)
    (hchosen : ∀ e ∈ entries, ∀ name, name? e.1 = some name → name ∈ e.1.names)
    (hleft : ∀ e ∈ entries, name? e.1 = none → e.2 = e.1.default) :
    Rewritten entries (.object (choosing name? entries)) := by
  refine ⟨_, ?_, rfl⟩
  -- entry by entry, where those before have been dealt with
  have onTheWay (rest : List (FieldRule × Json)) (hrest : ∀ e ∈ rest, e ∈ entries)
      (before : Fields Json) :
      Relation.ReflTransGen (Edit (entries.map Prod.fst)) (before ++ canonical rest)
        (before ++ choosing name? rest) := by
    induction rest generalizing before with
    | nil => exact .refl
    | cons e rest ih =>
      have he : e ∈ entries := hrest e List.mem_cons_self
      have hrule : e.1 ∈ entries.map Prod.fst := List.mem_map_of_mem he
      have hself : e.1.name ∈ e.1.names := List.mem_cons_self
      have ih := ih fun e' he' => hrest e' (List.mem_cons_of_mem _ he')
      cases hname : name? e.1 with
      | some name =>
        have hstep := ih (before ++ [(name, e.2)])
        rw [choosing, List.filterMap_cons_some (by rw [hname]; rfl)]
        rw [List.append_assoc, List.append_assoc] at hstep
        exact .head (.rename before _ e.2 hrule hself (hchosen e he name hname)) hstep
      | none =>
        rw [choosing, List.filterMap_cons_none (by rw [hname]; rfl)]
        rw [canonical, List.map_cons, hleft e he hname]
        exact .head (.drop before _ hrule hself) (ih before)
  exact onTheWay entries (fun _ he => he) []

end Entries

end Json

end FacetedGraph
