import FacetedGraph.Distinct
import Mathlib.Data.List.Nodup

/-!
# Laws of distinct and ascending lists

## Main definitions

* `firstOccurrences` — the first occurrences, told by the places of a list.

## Main statements

* `firstBy_eq_firstOccurrences` — the walk over a list takes just the first occurrences.
* `firstBy_eq_self`, `mem_firstBy` — what taking first occurrences keeps.
* `firstBy_append_of_mem` — entries with known keys add nothing.
* `Ascends.ext` — an ascending list is told by its entries.
* `mem_ascendingBy` — sorting keeps the entries where a key tells them apart.
* `ascendingBy_congr` — what is sorted does not depend on order and repetition.
-/

namespace FacetedGraph

variable {α κ : Type} [DecidableEq κ] {key : α → κ} {items : List α} {a : α}

/-! ## First occurrences -/

/-- The entries at the places before which their key does not occur. -/
def firstOccurrences (key : α → κ) (items : List α) : List α :=
  (items.zipIdx.filter fun p => key p.1 ∉ (items.take p.2).map key).map Prod.fst

theorem firstBy_eq_firstOccurrences (key : α → κ) (items : List α) :
    firstBy key items = firstOccurrences key items := by
  -- On the way the keys seen are those of the entries before, and places count from behind them.
  have onTheWay (rest before : List α) (seen : List κ)
      (hseen : ∀ k, k ∈ seen ↔ k ∈ before.map key) :
      freshBy key seen rest =
        ((rest.zipIdx before.length).filter fun p =>
          key p.1 ∉ ((before ++ rest).take p.2).map key).map Prod.fst := by
    induction rest generalizing before seen with
    | nil => rfl
    | cons a rest ih =>
      have htake : (before ++ a :: rest).take before.length = before := List.take_left
      have hsplit : before ++ a :: rest = (before ++ [a]) ++ rest := by simp
      have hlength : before.length + 1 = (before ++ [a]).length := by simp
      rw [List.zipIdx_cons, List.filter_cons, htake, hlength, hsplit, freshBy]
      by_cases ha : key a ∈ seen
      · rw [if_pos ha, if_neg (by simpa using (hseen _).1 ha)]
        exact ih (before ++ [a]) seen (by grind)
      · rw [if_neg ha, if_pos (by simpa using mt (hseen _).2 ha), List.map_cons]
        exact congrArg _ (ih (before ++ [a]) (key a :: seen) (by grind))
  exact onTheWay items [] [] (by simp)

theorem freshBy_eq_nil {seen : List κ} (h : ∀ a ∈ items, key a ∈ seen) :
    freshBy key seen items = [] := by
  induction items with
  | nil => rfl
  | cons a rest ih =>
    rw [freshBy, if_pos (h a List.mem_cons_self), ih fun b hb => h b (List.mem_cons_of_mem _ hb)]

theorem freshBy_append_of_mem {others : List α} {seen : List κ}
    (h : ∀ b ∈ others, key b ∈ seen ∨ key b ∈ items.map key) :
    freshBy key seen (items ++ others) = freshBy key seen items := by
  induction items generalizing seen with
  | nil => exact freshBy_eq_nil fun b hb => (h b hb).resolve_right List.not_mem_nil
  | cons a rest ih =>
    rw [List.cons_append, freshBy, freshBy]
    by_cases ha : key a ∈ seen
    · rw [if_pos ha, if_pos ha, ih (by grind)]
    · rw [if_neg ha, if_neg ha, ih (by grind)]

/-- Entries with known keys add nothing. -/
theorem firstBy_append_of_mem {others : List α} (h : ∀ b ∈ others, key b ∈ items.map key) :
    firstBy key (items ++ others) = firstBy key items :=
  freshBy_append_of_mem fun b hb => .inr (h b hb)

theorem freshBy_eq_self {seen : List κ} (hnodup : (items.map key).Nodup)
    (hseen : ∀ a ∈ items, key a ∉ seen) : freshBy key seen items = items := by
  induction items generalizing seen with
  | nil => rfl
  | cons a rest ih =>
    obtain ⟨hfirst, hrest⟩ := List.nodup_cons.1 hnodup
    rw [freshBy, if_neg (hseen a List.mem_cons_self), ih hrest]
    intro b hb
    rw [List.mem_cons, not_or]
    refine ⟨fun heq => hfirst ?_, hseen b (List.mem_cons_of_mem _ hb)⟩
    exact heq ▸ List.mem_map_of_mem hb

/-- Nothing is left out where no key occurs twice. -/
theorem firstBy_eq_self (hnodup : (items.map key).Nodup) : firstBy key items = items :=
  freshBy_eq_self hnodup fun _ _ => List.not_mem_nil

/-- Where a key tells the entries apart, taking first occurrences loses none of them. -/
theorem mem_firstBy (hkey : ∀ a ∈ items, ∀ b ∈ items, key a = key b → a = b) :
    a ∈ firstBy key items ↔ a ∈ items := by
  refine ⟨fun ha => (freshBy_sublist []).subset ha, fun ha => ?_⟩
  obtain ⟨b, hb, heq⟩ := List.mem_map.1 (mem_map_firstBy.2 (List.mem_map_of_mem (f := key) ha))
  rwa [← hkey b ((freshBy_sublist []).subset hb) a ha heq]

theorem nodup_map_firstBy (key : α → κ) (items : List α) : ((firstBy key items).map key).Nodup :=
  nodup_map_freshBy []

/-! ## Ascending order -/

section Ascending

variable {key : α → Nat}

/-- Entries whose keys are their places ascend. -/
theorem ascends_of_getElem? (hkey : ∀ (i : Nat) (a : α), items[i]? = some a → key a = i) :
    Ascends key items := by
  refine List.pairwise_iff_getElem.2 fun i j hi hj hij => ?_
  rw [hkey i _ (List.getElem?_eq_getElem hi), hkey j _ (List.getElem?_eq_getElem hj)]
  exact hij

theorem Ascends.nodup_map (h : Ascends key items) : (items.map key).Nodup := by
  refine List.pairwise_map.2 (h.imp fun hlt => ?_)
  exact Nat.ne_of_lt hlt

theorem ascends_map {β : Type} {f : β → α} {items : List β} :
    Ascends key (items.map f) ↔ Ascends (fun b => key (f b)) items :=
  List.pairwise_map

/-- Two ascending lists with the same entries are one list. -/
theorem Ascends.ext {others : List α} (h : Ascends key items) (hothers : Ascends key others)
    (hmem : ∀ a, a ∈ items ↔ a ∈ others) : items = others := by
  have irrefl {rest : List α} (h : Ascends key rest) : rest.Nodup :=
    List.Nodup.of_map key h.nodup_map
  have hperm : items.Perm others := (List.perm_ext_iff_of_nodup (irrefl h) (irrefl hothers)).2 hmem
  exact hperm.eq_of_pairwise (fun a b _ _ hab hba => absurd hab (Nat.lt_asymm hba)) h hothers

theorem mem_ascendingBy (hkey : ∀ a ∈ items, ∀ b ∈ items, key a = key b → a = b) :
    a ∈ ascendingBy key items ↔ a ∈ items := by
  refine ⟨mem_of_mem_ascendingBy, fun ha => ?_⟩
  obtain ⟨b, hb, heq⟩ :=
    List.mem_map.1 (mem_map_ascendingBy.2 (List.mem_map_of_mem (f := key) ha))
  rwa [← hkey b (mem_of_mem_ascendingBy hb) a ha heq]

/-- Ascending order does not depend on how entries are listed, nor on how often. -/
theorem ascendingBy_congr {others : List α} (hkey : Function.Injective key)
    (h : ∀ a, a ∈ items ↔ a ∈ others) : ascendingBy key items = ascendingBy key others := by
  refine (ascends_ascendingBy key items).ext (ascends_ascendingBy key others) fun a => ?_
  rw [mem_ascendingBy fun _ _ _ _ heq => hkey heq, mem_ascendingBy fun _ _ _ _ heq => hkey heq, h]

end Ascending

end FacetedGraph
