import FacetedGraph.Fields
import Mathlib.Data.List.Nodup

/-!
# Fields of lists of pairs

## Main statements

* `Fields.get?_ofList_of_mem` — of pairs with different names each is found.
* `Fields.perm_ofList` — none of such pairs is lost.
* `Fields.get?_eq_some_iff` — in ascending fields looking up finds just what is there.
* `Fields.get?_of_perm` — looking up does not depend on the order of fields.
* `Fields.eq_of_perm` — the order of ascending fields is told by what they are.
* `Fields.without_insertAll` — dropping fields leaves those that were set beside them.
-/

namespace FacetedGraph.Fields

variable {α : Type} {name : String} {value : α} {pairs : List (String × α)}

theorem get?_insertAll_of_notMem (fields : Fields α) (h : name ∉ pairs.map Prod.fst) :
    (fields.insertAll pairs).get? name = fields.get? name := by
  induction pairs generalizing fields with
  | nil => rfl
  | cons p rest ih =>
    rw [List.map_cons, List.mem_cons, not_or] at h
    change ((fields.insert p.1 p.2).insertAll rest).get? name = _
    rw [ih _ h.2, get?_insert, if_neg (Ne.symm h.1)]

theorem get?_insertAll_of_mem (fields : Fields α) (hnodup : (pairs.map Prod.fst).Nodup)
    (h : (name, value) ∈ pairs) : (fields.insertAll pairs).get? name = some value := by
  induction pairs generalizing fields with
  | nil => cases h
  | cons p rest ih =>
    obtain ⟨hfirst, hrest⟩ := List.nodup_cons.1 hnodup
    change ((fields.insert p.1 p.2).insertAll rest).get? name = _
    rcases List.mem_cons.1 h with rfl | h
    · rw [get?_insertAll_of_notMem _ hfirst, get?_insert, if_pos rfl]
    · exact ih _ hrest h

theorem get?_ofList_of_mem (hnodup : (pairs.map Prod.fst).Nodup) (h : (name, value) ∈ pairs) :
    (ofList pairs).get? name = some value :=
  get?_insertAll_of_mem [] hnodup h

theorem mem_names_insertAll {fields : Fields α} :
    name ∈ (fields.insertAll pairs).names ↔ name ∈ fields.names ∨ name ∈ pairs.map Prod.fst := by
  induction pairs generalizing fields with
  | nil => simp [insertAll]
  | cons p rest ih =>
    change name ∈ ((fields.insert p.1 p.2).insertAll rest).names ↔ _
    rw [ih, mem_names_insert, List.map_cons, List.mem_cons, or_left_comm, or_assoc]

theorem get?_eq_none_of_notMem {fields : Fields α}
    (h : name ∉ fields.names) : fields.get? name = none := by
  induction fields with
  | nil => rfl
  | cons p rest ih =>
    rw [names, List.map_cons, List.mem_cons, not_or] at h
    rw [get?, if_neg (Ne.symm h.1), ih h.2]

theorem perm_insert {fields : Fields α} (h : name ∉ fields.names) :
    (fields.insert name value).Perm ((name, value) :: fields) := by
  induction fields with
  | nil => exact .refl _
  | cons p rest ih =>
    rw [names, List.map_cons, List.mem_cons, not_or] at h
    rw [insert, if_neg h.1]
    split
    case isTrue => exact .refl _
    case isFalse => exact ((ih h.2).cons p).trans (.swap _ _ _)

theorem perm_insertAll {fields : Fields α} (hnodup : (pairs.map Prod.fst).Nodup)
    (h : ∀ p ∈ pairs, p.1 ∉ fields.names) : (fields.insertAll pairs).Perm (pairs ++ fields) := by
  induction pairs generalizing fields with
  | nil => exact .refl _
  | cons p rest ih =>
    obtain ⟨hfirst, hrest⟩ := List.nodup_cons.1 hnodup
    have hinsert : (fields.insert p.1 p.2).Perm (p :: fields) := perm_insert (h p (by simp))
    refine (ih hrest fun q hq => ?_).trans ((hinsert.append_left rest).trans List.perm_middle)
    rw [mem_names_insert, not_or]
    refine ⟨fun heq => hfirst ?_, h q (List.mem_cons_of_mem _ hq)⟩
    exact heq ▸ List.mem_map_of_mem hq

/-- Pairs with different names become fields one by one, in order of names. -/
theorem perm_ofList (hnodup : (pairs.map Prod.fst).Nodup) : (ofList pairs).Perm pairs := by
  have hperm : (insertAll [] pairs).Perm (pairs ++ []) :=
    perm_insertAll hnodup fun _ _ => List.not_mem_nil
  rwa [List.append_nil] at hperm

theorem exists_get?_eq_some {fields : Fields α} (h : name ∈ fields.names) :
    ∃ value, fields.get? name = some value := by
  induction fields with
  | nil => cases h
  | cons p rest ih =>
    rw [get?]
    split
    case isTrue => exact ⟨_, rfl⟩
    case isFalse hne => exact ih ((List.mem_cons.1 h).resolve_left (Ne.symm hne))

theorem get?_eq_some_iff_of_nodup {fields : Fields α} (h : fields.names.Nodup) :
    fields.get? name = some value ↔ (name, value) ∈ fields := by
  induction fields with
  | nil => simp
  | cons p rest ih =>
    obtain ⟨k, v⟩ := p
    obtain ⟨hk, hrest⟩ := List.nodup_cons.1 h
    rw [get?, List.mem_cons, ← ih hrest]
    by_cases heq : k = name
    · subst heq
      have habsent : get? rest k = none := get?_eq_none_of_notMem hk
      simp [habsent, eq_comm]
    · simp [heq, Ne.symm heq]

theorem Ascending.nodup_names {fields : Fields α} (h : fields.Ascending) : fields.names.Nodup :=
  h.imp String.ne_of_lt

theorem get?_eq_some_iff {fields : Fields α} (h : fields.Ascending) :
    fields.get? name = some value ↔ (name, value) ∈ fields :=
  get?_eq_some_iff_of_nodup h.nodup_names

/-- Where each name occurs once, looking up does not depend on the order of the fields. -/
theorem get?_of_perm {fields others : Fields α} (hperm : others.Perm fields)
    (h : fields.names.Nodup) (name : String) : others.get? name = fields.get? name := by
  have hothers : others.names.Nodup := (hperm.map Prod.fst).nodup_iff.2 h
  refine Option.ext fun value => ?_
  rw [get?_eq_some_iff_of_nodup hothers, get?_eq_some_iff_of_nodup h, hperm.mem_iff]

/-! ## Order and names -/

theorem eq_of_perm {fields others : Fields α} (hperm : fields.Perm others)
    (h : fields.Ascending) (hothers : others.Ascending) : fields = others := by
  have hpairs {fields : Fields α} (h : fields.Ascending) :
      fields.Pairwise fun p q => p.1 < q.1 := List.pairwise_map.1 h
  exact hperm.eq_of_pairwise (fun _ _ _ _ hlt hgt => absurd hgt (String.lt_asymm hlt))
    (hpairs h) (hpairs hothers)

/-- Dropping the fields that were there leaves those that were set beside them. -/
theorem without_insertAll {fixed fields : Fields α} (hfixed : fixed.Ascending)
    (h : fields.Ascending) (hapart : ∀ name ∈ fields.names, name ∉ fixed.names)
    {dropped : List String} (hdropped : ∀ name, name ∈ dropped ↔ name ∈ fixed.names) :
    (insertAll fixed fields).without dropped = fields := by
  have hnodup : (fields.map Prod.fst).Nodup := h.imp String.ne_of_lt
  refine eq_of_perm ?_ ((ascending_insertAll hfixed).sublist (List.filter_sublist.map _)) h
  have hkept : Fields.without fields dropped = fields := by
    refine List.filter_eq_self.2 fun p hp => ?_
    simpa [hdropped] using hapart p.1 (List.mem_map_of_mem hp)
  have hgone : Fields.without fixed dropped = [] := by
    refine List.filter_eq_nil_iff.2 fun p hp => ?_
    have hmem : p.1 ∈ fixed.names := List.mem_map_of_mem hp
    simpa [hdropped] using hmem
  have hperm := (perm_insertAll hnodup fun p hp => hapart p.1 (List.mem_map_of_mem hp)).filter
    fun p => !dropped.contains p.1
  rw [List.filter_append] at hperm
  rw [without] at hkept hgone ⊢
  rwa [hkept, hgone, List.append_nil] at hperm

end FacetedGraph.Fields
