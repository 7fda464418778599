/-!
# Distinct and ascending lists

Two ways to list the members of a collection once each: in the order of their first occurrence,
and in ascending order of a key.

## Main definitions

* `firstBy` — the first entry with each key, in the order of the list.
* `ascendingBy` — one entry with each key, in ascending order of the keys.
* `Ascends` — what `ascendingBy` sees to.
-/

namespace FacetedGraph

variable {α κ : Type} [DecidableEq κ] {key : α → κ} {items : List α} {a b : α} {k : κ}

/-! ## First occurrences -/

/-- The entries whose key is neither among `seen` nor that of an earlier entry. -/
def freshBy (key : α → κ) (seen : List κ) : List α → List α
  | [] => []
  | a :: as =>
    if key a ∈ seen then freshBy key seen as else a :: freshBy key (key a :: seen) as

/-- The first entry with each key, in the order of the list. -/
def firstBy (key : α → κ) (items : List α) : List α := freshBy key [] items

/-- The first occurrence of each entry. -/
def distinct (items : List κ) : List κ := firstBy id items

/-- Entries are left out, none is moved. -/
theorem freshBy_sublist (seen : List κ) : (freshBy key seen items).Sublist items := by
  fun_induction freshBy key seen items with
  | case1 => exact .slnil
  | case2 _ a _ _ ih => exact ih.cons a
  | case3 _ a _ _ ih => exact ih.cons_cons a

theorem mem_map_freshBy {seen : List κ} :
    k ∈ (freshBy key seen items).map key ↔ k ∈ items.map key ∧ k ∉ seen := by
  fun_induction freshBy key seen items <;> grind

/-- No key occurs twice. -/
theorem nodup_map_freshBy (seen : List κ) : ((freshBy key seen items).map key).Nodup := by
  fun_induction freshBy key seen items with
  | case1 => exact .nil
  | case2 _ _ _ _ ih => exact ih
  | case3 seen a _ _ ih =>
    refine List.nodup_cons.2 ⟨fun h => ?_, ih⟩
    exact (mem_map_freshBy.1 h).2 List.mem_cons_self

theorem mem_map_firstBy : k ∈ (firstBy key items).map key ↔ k ∈ items.map key := by
  simp [firstBy, mem_map_freshBy]

@[simp] theorem mem_distinct {items : List κ} : k ∈ distinct items ↔ k ∈ items := by
  simpa [distinct] using (mem_map_firstBy : k ∈ (firstBy id items).map id ↔ _)

theorem nodup_distinct (items : List κ) : (distinct items).Nodup := by
  simpa [distinct, firstBy] using (nodup_map_freshBy [] : ((freshBy id [] items).map id).Nodup)

/-! ## Ascending order -/

variable [LT κ] [DecidableLT κ]

/-- Puts an entry at its place in an ascending list that lacks its key. -/
def insertBy (key : α → κ) (a : α) : List α → List α
  | [] => [a]
  | b :: rest =>
    if key a = key b then b :: rest
    else if key a < key b then a :: b :: rest
    else b :: insertBy key a rest

/-- One entry with each key, in ascending order of the keys. -/
def ascendingBy (key : α → κ) (items : List α) : List α :=
  items.foldl (fun acc a => insertBy key a acc) []

/-- The entries of a list in ascending order, each once. -/
def ascending (items : List κ) : List κ := ascendingBy id items

/-- The keys ascend, so each occurs once. -/
def Ascends (key : α → κ) (items : List α) : Prop := items.Pairwise fun a b => key a < key b

theorem mem_of_mem_insertBy (h : b ∈ insertBy key a items) : b = a ∨ b ∈ items := by
  fun_induction insertBy key a items <;> grind

theorem mem_map_insertBy : k ∈ (insertBy key a items).map key ↔ k = key a ∨ k ∈ items.map key := by
  fun_induction insertBy key a items <;> grind

theorem mem_of_mem_ascendingBy (h : a ∈ ascendingBy key items) : a ∈ items := by
  have among (added acc : List α) (hadded : ∀ b ∈ added, b ∈ items) (hacc : ∀ b ∈ acc, b ∈ items) :
      ∀ b ∈ added.foldl (fun acc a => insertBy key a acc) acc, b ∈ items := by
    induction added generalizing acc with
    | nil => exact hacc
    | cons c rest ih =>
      refine ih _ (fun b hb => hadded b (List.mem_cons_of_mem _ hb)) fun b hb => ?_
      rcases mem_of_mem_insertBy hb with rfl | hb
      · exact hadded b List.mem_cons_self
      · exact hacc b hb
  exact among items [] (fun _ => id) (by simp) a h

theorem mem_map_ascendingBy : k ∈ (ascendingBy key items).map key ↔ k ∈ items.map key := by
  have gathered (acc : List α) :
      k ∈ (items.foldl (fun acc a => insertBy key a acc) acc).map key ↔
        k ∈ items.map key ∨ k ∈ acc.map key := by
    induction items generalizing acc with
    | nil => simp
    | cons a rest ih => rw [List.foldl_cons, ih, mem_map_insertBy]; grind
  rw [ascendingBy, gathered]
  simp

@[simp] theorem mem_ascending {items : List κ} : k ∈ ascending items ↔ k ∈ items := by
  simpa [ascending] using (mem_map_ascendingBy : k ∈ (ascendingBy id items).map id ↔ _)

variable [Std.Trichotomous fun a b : κ => a < b]
  [Trans (fun a b : κ => a < b) (fun a b : κ => a < b) (fun a b : κ => a < b)]

theorem ascends_insertBy (h : Ascends key items) : Ascends key (insertBy key a items) := by
  fun_induction insertBy key a items with
  | case1 => exact List.pairwise_singleton _ _
  | case2 => exact h
  | case3 b rest _ hlt =>
    refine List.pairwise_cons.2 ⟨fun c hc => ?_, h⟩
    rcases List.mem_cons.1 hc with rfl | hc
    · exact hlt
    · exact Trans.trans hlt (List.rel_of_pairwise_cons h hc)
  | case4 b rest hne hlt ih =>
    have hb : key b < key a :=
      Decidable.byContradiction fun hge => hne (Std.Trichotomous.trichotomous _ _ hlt hge)
    refine List.pairwise_cons.2 ⟨fun c hc => ?_, ih (List.Pairwise.of_cons h)⟩
    rcases mem_of_mem_insertBy hc with rfl | hc
    · exact hb
    · exact List.rel_of_pairwise_cons h hc

theorem ascends_ascendingBy (key : α → κ) (items : List α) :
    Ascends key (ascendingBy key items) := by
  have kept (acc : List α) (hacc : Ascends key acc) :
      Ascends key (items.foldl (fun acc a => insertBy key a acc) acc) := by
    induction items generalizing acc with
    | nil => exact hacc
    | cons a rest ih => exact ih _ (ascends_insertBy hacc)
  exact kept [] .nil

end FacetedGraph
