import FacetedGraph.Proofs.Fields
import FacetedGraph.Result.Basic
import Mathlib.Algebra.Ring.Nat
import Mathlib.Data.List.Induction

/-!
# Counts over results

A tally is told by how often each text occurs in what was counted.

## Main definitions

* `Fields.Tabulates` — a table holds the counts that are not zero, in ascending order.

* `Summary.CountsOf` — what a summary says of nodes and edges.

## Main statements

* `tabulates_tallyAll` — tallying texts tabulates how often each occurs.
* `sum_tallyAll` — the counts of a tally sum to the number of texts.
* `tabulates_tallyAll_map`, `tabulates_tallyAll_filterMap` — tallying the names of entries tabulates
  how many entries have each name.
* `Summary.countsOf_ofElements` — the summary of nodes and edges counts them.
-/

namespace FacetedGraph

namespace Fields

/-- A table of the counts that are not zero. -/
structure Tabulates (table : Fields Nat) (count : String → Nat) : Prop where
  ascending : table.Ascending
  mem_iff (s : String) (n : Nat) : (s, n) ∈ table ↔ n = count s ∧ n ≠ 0

theorem Tabulates.congr {table : Fields Nat} {count other : String → Nat}
    (h : table.Tabulates count) (heq : ∀ s, count s = other s) : table.Tabulates other :=
  funext heq ▸ h

/-- What is not in a table is counted zero times. -/
theorem Tabulates.getD_get? {table : Fields Nat} {count : String → Nat} (h : table.Tabulates count)
    (s : String) : (table.get? s).getD 0 = count s := by
  cases hget : table.get? s with
  | some n => exact ((h.mem_iff s n).1 ((get?_eq_some_iff h.ascending).1 hget)).1
  | none =>
    refine Decidable.byContradiction fun hne => ?_
    have hmem : (s, count s) ∈ table := (h.mem_iff s _).2 ⟨rfl, fun hzero => hne hzero.symm⟩
    rw [(get?_eq_some_iff h.ascending).2 hmem] at hget
    cases hget

theorem tabulates_tally {table : Fields Nat} {count : String → Nat} (h : table.Tabulates count)
    (s : String) :
    (tally s table).Tabulates fun other => count other + if s = other then 1 else 0 where
  ascending := ascending_insert h.ascending
  mem_iff other n := by
    rw [tally, ← get?_eq_some_iff (ascending_insert h.ascending), get?_insert, h.getD_get?]
    by_cases hs : s = other
    · subst hs
      simp [eq_comm]
      omega
    · rw [if_neg hs, if_neg hs, get?_eq_some_iff h.ascending, h.mem_iff, Nat.add_zero]

/-- Setting a field replaces its part of the sum. -/
theorem sum_insert {table : Fields Nat} (h : table.Ascending) (name : String) (n : Nat) :
    ((insert name n table).map Prod.snd).sum + (table.get? name).getD 0 =
      (table.map Prod.snd).sum + n := by
  induction table with
  | nil => simp [insert]
  | cons p rest ih =>
    obtain ⟨k, m⟩ := p
    obtain ⟨hk, hrest⟩ := List.pairwise_cons.1 h
    by_cases heq : name = k
    · simp [insert, get?, heq]
      omega
    · by_cases hlt : name < k
      · have habsent : get? rest name = none :=
          get?_eq_none_of_notMem fun hmem => String.lt_irrefl _ (String.lt_trans hlt (hk name hmem))
        simp [insert, get?, heq, Ne.symm heq, hlt, habsent]
        omega
      · have hsum := ih hrest
        simp [insert, get?, heq, Ne.symm heq, hlt]
        omega

theorem sum_tally {table : Fields Nat} (h : table.Ascending) (s : String) :
    ((tally s table).map Prod.snd).sum = (table.map Prod.snd).sum + 1 := by
  have hsum := sum_insert h s ((table.get? s).getD 0 + 1)
  rw [tally]
  omega

end Fields

open Fields

/-! ## Tallies -/

theorem tallyAll_concat (texts : List String) (s : String) :
    tallyAll (texts ++ [s]) = tally s (tallyAll texts) := by
  rw [tallyAll, List.foldl_append]
  rfl

theorem tabulates_tallyAll (texts : List String) :
    (tallyAll texts).Tabulates fun s => texts.count s := by
  induction texts using List.reverseRecOn with
  | nil => exact ⟨.nil, by simp [tallyAll]⟩
  | append_singleton texts s ih =>
    rw [tallyAll_concat]
    refine (tabulates_tally ih s).congr fun other => ?_
    rw [List.count_append, List.count_singleton]
    grind

theorem sum_tallyAll (texts : List String) :
    ((tallyAll texts).map Prod.snd).sum = texts.length := by
  induction texts using List.reverseRecOn with
  | nil => rfl
  | append_singleton texts s ih =>
    rw [tallyAll_concat, sum_tally (tabulates_tallyAll texts).ascending, ih, List.length_append]
    rfl

/-! ## Counts of entries -/

section Entries

variable {α : Type} (items : List α)

theorem tabulates_tallyAll_map (name : α → String) :
    (tallyAll (items.map name)).Tabulates fun s => items.countP (name · = s) := by
  refine (tabulates_tallyAll (items.map name)).congr fun s => ?_
  rw [List.count_eq_countP, List.countP_map]
  rfl

theorem tabulates_tallyAll_filterMap (name : α → Option String) :
    (tallyAll (items.filterMap name)).Tabulates fun s => items.countP (name · = some s) := by
  refine (tabulates_tallyAll (items.filterMap name)).congr fun s => ?_
  rw [List.count_filterMap]
  exact List.countP_congr fun a _ => by simp

end Entries

theorem EdgeView.mandateStatus_eq_some_iff {e : EdgeView} {s : String} :
    e.mandateStatus = some s ↔ e.type = "OWNS" ∧
      (Fields.get? e.properties "mandate_status").bind Value.queryString = some s := by
  rw [mandateStatus, ownershipType]
  by_cases h : e.type = "OWNS" <;> simp [h]

/-! ## Summaries -/

namespace Summary

/-- A summary counts nodes and edges, and within them types and statuses. -/
structure CountsOf (s : Summary) (nodes : List NodeView) (edges : List EdgeView) : Prop where
  totalNodes : s.totalNodes = nodes.length
  totalEdges : s.totalEdges = edges.length
  nodeTypes : s.nodeTypeCounts.Tabulates fun t => nodes.countP (·.type = t)
  sum_nodeTypes : (s.nodeTypeCounts.map Prod.snd).sum = s.totalNodes
  edgeTypes : s.edgeTypeCounts.Tabulates fun t => edges.countP (·.type = t)
  sum_edgeTypes : (s.edgeTypeCounts.map Prod.snd).sum = s.totalEdges
  mandateStatuses : s.mandateStatusCounts.Tabulates fun t =>
    edges.countP fun e => e.type = "OWNS" ∧
      (Fields.get? e.properties "mandate_status").bind Value.queryString = some t

theorem countsOf_ofElements (nodes : List NodeView) (edges : List EdgeView) :
    (ofElements nodes edges).CountsOf nodes edges where
  totalNodes := rfl
  totalEdges := rfl
  nodeTypes := tabulates_tallyAll_map nodes (·.type)
  sum_nodeTypes := by
    rw [ofElements, sum_tallyAll, List.length_map]
  edgeTypes := tabulates_tallyAll_map edges (·.type)
  sum_edgeTypes := by
    rw [ofElements, sum_tallyAll, List.length_map]
  mandateStatuses := by
    refine (tabulates_tallyAll_filterMap edges EdgeView.mandateStatus).congr fun t => ?_
    simp only [EdgeView.mandateStatus_eq_some_iff]

end Summary

end FacetedGraph
