/-!
# Named fields

A collection of named fields is a list of pairs, in ascending order of names with each name once.
`insert` keeps that order, so that two collections with the same fields are the same list.

## Main definitions

* `Fields.get?` — the field of a name.
* `Fields.insert` — sets a field; `Fields.ofList` sets many, the last one of a name wins.
* `Fields.Ascending` — the order that `insert` keeps.
-/

namespace FacetedGraph

abbrev Fields (α : Type) := List (String × α)

namespace Fields

variable {α : Type}

/-- The field of a name. -/
def get? : Fields α → String → Option α
  | [], _ => none
  | (k, v) :: rest, name => if k = name then some v else get? rest name

/-- Sets the field of a name. -/
def insert (name : String) (value : α) : Fields α → Fields α
  | [] => [(name, value)]
  | (k, v) :: rest =>
    if name = k then (name, value) :: rest
    else if name < k then (name, value) :: (k, v) :: rest
    else (k, v) :: insert name value rest

/-- Sets every listed field in turn. -/
def insertAll (fields : Fields α) (news : List (String × α)) : Fields α :=
  news.foldl (fun acc p => acc.insert p.1 p.2) fields

/-- The fields of a list of pairs; of two with one name the last wins. -/
def ofList (pairs : List (String × α)) : Fields α := insertAll [] pairs

def names (fields : Fields α) : List String := fields.map Prod.fst

/-- The fields whose name is not among `dropped`. -/
def without (fields : Fields α) (dropped : List String) : Fields α :=
  fields.filter fun p => !dropped.contains p.1

/-- Adds one to the count of a name. -/
def tally (name : String) (counts : Fields Nat) : Fields Nat :=
  insert name ((get? counts name).getD 0 + 1) counts

/-- Names ascend, so each occurs once. -/
def Ascending (fields : Fields α) : Prop := fields.names.Pairwise (· < ·)

/-! ## Looking up -/

@[simp] theorem get?_nil (name : String) : get? ([] : Fields α) name = none := rfl

theorem get?_insert (fields : Fields α) (name other : String) (value : α) :
    (insert name value fields).get? other =
      if name = other then some value else fields.get? other := by
  induction fields with
  | nil => rfl
  | cons p rest ih =>
    obtain ⟨k, v⟩ := p
    by_cases h : name = k
    · subst h; by_cases ho : name = other <;> simp [insert, get?, ho]
    · by_cases hlt : name < k
      · simp [insert, h, hlt, get?]
      · by_cases ho : k = other
        · subst ho; simp [insert, h, hlt, get?]
        · simp [insert, h, hlt, get?, ho, ih]

/-! ## Order -/

theorem mem_names_insert {name other : String} {value : α} {fields : Fields α} :
    other ∈ (insert name value fields).names ↔ other = name ∨ other ∈ fields.names := by
  induction fields with
  | nil => simp [insert, names]
  | cons p rest ih =>
    obtain ⟨k, v⟩ := p
    simp only [names] at ih
    by_cases h : name = k
    · simp [insert, names, h]
    · by_cases hlt : name < k
      · simp [insert, names, h, hlt]
      · simp [insert, names, h, hlt, ih]; grind

theorem ascending_insert {name : String} {value : α} {fields : Fields α} (h : fields.Ascending) :
    (insert name value fields).Ascending := by
  induction fields with
  | nil => simp [insert, names, Ascending]
  | cons p rest ih =>
    obtain ⟨k, v⟩ := p
    obtain ⟨hk, hrest⟩ := List.pairwise_cons.1 h
    by_cases heq : name = k
    · subst heq
      simpa [insert, Ascending, names] using h
    · by_cases hlt : name < k
      · simp only [insert, heq, hlt, if_false, if_true]
        refine List.pairwise_cons.2 ⟨fun other hother => ?_, h⟩
        rcases List.mem_cons.1 hother with rfl | hother
        · exact hlt
        · exact String.lt_trans hlt (hk other hother)
      · simp only [insert, heq, hlt, if_false]
        refine List.pairwise_cons.2 ⟨fun other hother => ?_, ih hrest⟩
        rcases mem_names_insert.1 hother with rfl | hother
        · exact Decidable.byContradiction fun hgt =>
            heq (Std.Trichotomous.trichotomous (r := (· < ·)) _ _ hlt hgt)
        · exact hk other hother

theorem ascending_insertAll {news : List (String × α)} {fields : Fields α}
    (h : fields.Ascending) : (fields.insertAll news).Ascending := by
  induction news generalizing fields with
  | nil => exact h
  | cons p rest ih => exact ih (ascending_insert h)

theorem ascending_ofList (pairs : List (String × α)) : (ofList pairs).Ascending :=
  ascending_insertAll .nil

end Fields

end FacetedGraph
