import Mathlib.Data.Set.Card

/-!
# Counting with lists

## Main statements

* `ncard_eq_length` — a list without repetition counts a set.
* `ncard_mem_eq_iff` — a list counts its entries only if it has no repetition.
* `ncard_sep_eq_iff` — of two properties of which one implies the other, both hold equally often
  only if they hold together.
-/

namespace FacetedGraph

variable {α : Type}

/-- A list without repetition counts the set of its entries. -/
theorem ncard_eq_length {entries : Set α} {items : List α} (hnodup : items.Nodup)
    (hmem : ∀ a, a ∈ items ↔ a ∈ entries) : entries.ncard = items.length := by
  classical
  have heq : entries = items.toFinset := by
    ext a
    rw [Finset.mem_coe, List.mem_toFinset, hmem]
  rw [heq, Set.ncard_coe_finset, List.toFinset_card_of_nodup hnodup]

/-- A list has at least as many entries as are different. -/
theorem ncard_mem_le (items : List α) : {a | a ∈ items}.ncard ≤ items.length := by
  classical
  rw [← List.coe_toFinset, Set.ncard_coe_finset]
  exact items.toFinset_card_le

theorem ncard_mem_eq_iff {items : List α} : {a | a ∈ items}.ncard = items.length ↔ items.Nodup := by
  classical
  rw [← List.coe_toFinset, Set.ncard_coe_finset]
  exact Multiset.toFinset_card_eq_card_iff_nodup

theorem ncard_sep_eq_iff {entries : Set α} (hfinite : entries.Finite) {p q : α → Prop}
    (h : ∀ a ∈ entries, p a → q a) :
    {a ∈ entries | p a}.ncard = {a ∈ entries | q a}.ncard ↔ ∀ a ∈ entries, q a → p a := by
  have hsubset : {a ∈ entries | p a} ⊆ {a ∈ entries | q a} :=
    fun a ⟨ha, hp⟩ => ⟨ha, h a ha hp⟩
  have hlarger : {a ∈ entries | q a}.Finite := hfinite.subset fun a ha => ha.1
  constructor
  · intro hcount a ha hq
    have heq := Set.eq_of_subset_of_ncard_le hsubset hcount.ge hlarger
    have hmem : a ∈ {a ∈ entries | p a} := heq ▸ ⟨ha, hq⟩
    exact hmem.2
  · intro hall
    exact congrArg Set.ncard (hsubset.antisymm fun a ⟨ha, hq⟩ => ⟨ha, hall a ha hq⟩)

end FacetedGraph
