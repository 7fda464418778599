import FacetedGraph.Proofs.Identity
import FacetedGraph.Proofs.Result.Rows
import FacetedGraph.Proofs.Result.Summary

/-!
# What rows amount to

A walk over rows meets nodes and relationships in one order: row by row, column by column, and
into lists and paths. The result of the rows has what the walk meets, where it meets it first.

## Main definitions

* `Value.walk`, `Row.walk` — the graph elements in the order in which a walk over a value, and over
  a row, meets them.

## Main statements

* `Value.nodesWithin_eq_walk`, `Value.relationshipsWithin_eq_walk` — the two kinds of elements of
  one walk.
* `walk_cells` — the cells of rows are what a walk over the rows goes through.
* `Subgraph.ofRows_append` — rows that are there already change nothing.
* `Subgraph.ofRows_collects` — a result has each element once, at its first occurrence, and its
  summary counts what it has.
-/

namespace FacetedGraph

namespace Value

mutual

/-- The graph elements that a walk over a value meets. It does not look into maps. -/
def walk : Value → List (Node ⊕ Relationship)
  | node n => [.inl n]
  | relationship r => [.inr r]
  | path p => p.nodes.map .inl ++ p.relationships.map .inr
  | list items => walkAll items
  | map _ => []
  | _ => []
termination_by structural v => v

def walkAll : List Value → List (Node ⊕ Relationship)
  | [] => []
  | v :: vs => v.walk ++ walkAll vs
termination_by structural v => v

end

mutual

theorem nodesWithin_eq_walk (v : Value) : v.nodesWithin = v.walk.filterMap Sum.getLeft? := by
  cases v with
  | node n => rfl
  | relationship r => rfl
  | path p => simp [nodesWithin, walk, List.filterMap_append, List.filterMap_map, Function.comp_def]
  | list items => rw [nodesWithin, walk, nodesWithinAll_eq_walkAll items]
  | _ => rfl
termination_by structural v

theorem nodesWithinAll_eq_walkAll (items : List Value) :
    nodesWithinAll items = (walkAll items).filterMap Sum.getLeft? := by
  cases items with
  | nil => rfl
  | cons v rest =>
    rw [nodesWithinAll, walkAll, List.filterMap_append, nodesWithin_eq_walk v,
      nodesWithinAll_eq_walkAll rest]
termination_by structural items

end

mutual

theorem relationshipsWithin_eq_walk (v : Value) :
    v.relationshipsWithin = v.walk.filterMap Sum.getRight? := by
  cases v with
  | node n => rfl
  | relationship r => rfl
  | path p =>
    simp [relationshipsWithin, walk, List.filterMap_append, List.filterMap_map, Function.comp_def]
  | list items => rw [relationshipsWithin, walk, relationshipsWithinAll_eq_walkAll items]
  | _ => rfl
termination_by structural v

theorem relationshipsWithinAll_eq_walkAll (items : List Value) :
    relationshipsWithinAll items = (walkAll items).filterMap Sum.getRight? := by
  cases items with
  | nil => rfl
  | cons v rest =>
    rw [relationshipsWithinAll, walkAll, List.filterMap_append, relationshipsWithin_eq_walk v,
      relationshipsWithinAll_eq_walkAll rest]
termination_by structural items

end

end Value

/-! ## Elements of rows -/

/-- The graph elements that a walk over a row meets, column by column. -/
def Row.walk (row : Row) : List (Node ⊕ Relationship) :=
  row.columns.flatMap fun column => column.2.walk

theorem walk_cells (rows : List Row) : (cells rows).flatMap Value.walk = rows.flatMap Row.walk := by
  rw [cells, List.flatMap_assoc]
  exact List.flatMap_congr fun row _ => List.flatMap_map _ _ _

section Cells

variable {α κ : Type} [DecidableEq κ] (key : α → κ)

/-- One kind of the elements that rows hold, each once, by the walk that meets all of them. -/
theorem firstBy_cells {held : Value → List α} {pick : Node ⊕ Relationship → Option α}
    (hheld : ∀ v, held v = v.walk.filterMap pick) (rows : List Row) :
    firstBy key ((cells rows).flatMap held) =
      firstOccurrences key ((rows.flatMap Row.walk).filterMap pick) := by
  rw [firstBy_eq_firstOccurrences, ← walk_cells, List.filterMap_flatMap, funext hheld]

theorem mem_cells {rows : List Row} {v : Value} : v ∈ cells rows ↔ ∃ row ∈ rows, v ∈ row.values :=
  List.mem_flatMap

/-- What rows hold, other rows among them add nothing to. -/
theorem firstBy_cells_append (held : Value → List α) {rows again : List Row}
    (h : ∀ row ∈ again, row ∈ rows) :
    firstBy key ((cells (rows ++ again)).flatMap held) =
      firstBy key ((cells rows).flatMap held) := by
  rw [cells, List.flatMap_append, List.flatMap_append]
  refine firstBy_append_of_mem fun a ha => List.mem_map_of_mem ?_
  obtain ⟨v, hv, ha⟩ := List.mem_flatMap.1 ha
  obtain ⟨row, hrow, hv⟩ := mem_cells.1 hv
  exact List.mem_flatMap.2 ⟨v, mem_cells.2 ⟨row, h row hrow, hv⟩, ha⟩

/-- Keys that occur once have texts that occur once. -/
theorem nodup_texts_firstBy {text : κ → String} (htext : Function.Injective text)
    (items : List α) : ((firstBy key items).map fun a => text (key a)).Nodup := by
  have htexts := (nodup_map_firstBy key items).map htext
  rwa [List.map_map] at htexts

end Cells

/-! ## Results of rows -/

namespace Subgraph

variable (rows : List Row)

theorem nodes_ofRows_eq :
    (ofRows rows).nodes =
      (firstOccurrences NodeOf.id
        ((rows.flatMap Row.walk).filterMap Sum.getLeft?)).map NodeView.ofNode :=
  congrArg (List.map NodeView.ofNode) (firstBy_cells _ Value.nodesWithin_eq_walk rows)

theorem edges_ofRows_eq :
    (ofRows rows).edges =
      (firstOccurrences RelationshipOf.id
        ((rows.flatMap Row.walk).filterMap Sum.getRight?)).map EdgeView.ofRelationship :=
  congrArg (List.map EdgeView.ofRelationship)
    (firstBy_cells _ Value.relationshipsWithin_eq_walk rows)

theorem nodup_ids_nodes : ((ofRows rows).nodes.map (·.id)).Nodup := by
  rw [ofRows, ofElements, List.map_map]
  exact nodup_texts_firstBy NodeOf.id (fun _ _ => NodeId.text_injective) _

theorem nodup_ids_edges : ((ofRows rows).edges.map (·.id)).Nodup := by
  rw [ofRows, ofElements, List.map_map]
  exact nodup_texts_firstBy RelationshipOf.id (fun _ _ => RelationshipId.text_injective) _

theorem ofRows_append {rows again : List Row} (h : ∀ row ∈ again, row ∈ rows) :
    ofRows (rows ++ again) = ofRows rows := by
  rw [ofRows, firstBy_cells_append _ _ h, firstBy_cells_append _ _ h, ofRows]

/-- A result has the first occurrence of each node and of each relationship that a walk over the
rows meets, in the order of the walk. So no identity is there twice, rows that are there already
add nothing, and the summary counts what the result has. -/
theorem ofRows_collects :
    (ofRows rows).nodes =
        (firstOccurrences NodeOf.id
          ((rows.flatMap Row.walk).filterMap Sum.getLeft?)).map NodeView.ofNode ∧
      (ofRows rows).edges =
        (firstOccurrences RelationshipOf.id
          ((rows.flatMap Row.walk).filterMap Sum.getRight?)).map EdgeView.ofRelationship ∧
      ((ofRows rows).nodes.map (·.id)).Nodup ∧
      ((ofRows rows).edges.map (·.id)).Nodup ∧
      (∀ again : List Row, (∀ row ∈ again, row ∈ rows) → ofRows (rows ++ again) = ofRows rows) ∧
      (ofRows rows).summary.CountsOf (ofRows rows).nodes (ofRows rows).edges :=
  ⟨nodes_ofRows_eq rows, edges_ofRows_eq rows, nodup_ids_nodes rows, nodup_ids_edges rows,
    fun _ => ofRows_append, Summary.countsOf_ofElements _ _⟩

/-- Rows with lists in lists, a path, and a map. The second row has the node and the relationship
of the path once more, with something else in them. -/
def nested : List Row :=
  let company : Node := ⟨⟨7⟩, ["COMPANY"], []⟩
  let product : Node := ⟨⟨3⟩, ["PRODUCT"], []⟩
  let owns : Relationship := ⟨⟨2⟩, ⟨7⟩, ⟨3⟩, "OWNS", [("mandate_status", .string "Active")]⟩
  [⟨[("found", .list [.list [.node company], .path ⟨[product, company], [owns]⟩]),
      ("hidden", .map [("node", .node ⟨⟨1⟩, ["CLIENT"], []⟩)])]⟩,
    ⟨[("again", .relationship { owns with type := "RATES" }),
      ("more", .list [.node { product with labels := [] }, .node ⟨⟨0⟩, [], []⟩])]⟩]

theorem ofRows_collects_nested :
    (ofRows nested).nodes.map (fun n => (n.id, n.type)) =
        [("7", "COMPANY"), ("3", "PRODUCT"), ("0", "Unknown")] ∧
      (ofRows nested).edges.map (fun e => (e.id, e.type)) = [("2", "OWNS")] ∧
      ofRows (nested ++ nested) = ofRows nested ∧
      (ofRows nested).summary.mandateStatusCounts.get? "Active" = some 1 := by
  obtain ⟨hnodes, hedges, -, -, hagain, hsummary⟩ := ofRows_collects nested
  refine ⟨?_, ?_, hagain nested fun _ => id, ?_⟩
  · rw [hnodes]
    decide +kernel
  · rw [hedges]
    decide +kernel
  · rw [Fields.get?_eq_some_iff hsummary.mandateStatuses.ascending,
      hsummary.mandateStatuses.mem_iff, hedges]
    decide +kernel

end Subgraph

end FacetedGraph
