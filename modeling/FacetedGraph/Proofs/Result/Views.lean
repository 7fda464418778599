import FacetedGraph.Proofs.Json.Records
import FacetedGraph.Proofs.Value.Plain
import FacetedGraph.Result.Json

/-!
# Nodes and edges read back

The properties of a node or an edge share its object with the fixed fields, so one that goes by the
name of a fixed field takes its place, and is taken for the field when it is read. Apart from that
a result loses only what its filter loses.

## Main definitions

* `Properties.Tellable` — properties with values that JSON tells apart.
* `NodeView.Unshadowed`, `EdgeView.Unshadowed` — no property goes by the name of a fixed field.
* `Subgraph.Encodable` — the results that are looked at.
* `Subgraph.Intact` — those of them that are read back.

## Main statements

* `propertiesBeside_flattened` — properties are found again beside the fixed fields.
* `NodeView.ofJson_toJson_iff`, `EdgeView.ofJson_toJson_iff`, `Summary.ofJson_toJson_iff`.
* `Subgraph.ofJsonFields_iff` — which results are read back from an object that has their fields.
-/

namespace FacetedGraph

open Json

/-! ## Properties beside fixed fields -/

/-- Properties in the order of their names, with values that JSON tells apart. -/
structure Properties.Tellable (properties : Properties) : Prop where
  ascending : properties.Ascending
  plain : ∀ e ∈ properties, e.2.Plain

section Flattened

variable {properties : Properties} {name : String}

theorem get?_flattened (fixed : List (String × Json)) (hfixed : (fixed.map Prod.fst).Nodup)
    (hapart : ∀ name ∈ fixed.map Prod.fst, name ∉ properties.names) :
    ∀ p ∈ fixed,
      Fields.get? (Fields.insertAll (Fields.ofList fixed) (Value.toJsonFields properties)) p.1 =
        some p.2 := by
  intro p hp
  rw [Fields.get?_insertAll_of_notMem _ ?_, Fields.get?_ofList_of_mem hfixed hp]
  rw [Value.names_toJsonFields]
  exact hapart p.1 (List.mem_map_of_mem hp)

theorem propertiesBeside_flattened (fixed : List (String × Json))
    (hproperties : properties.Tellable)
    (hapart : ∀ name ∈ fixed.map Prod.fst, name ∉ properties.names) :
    propertiesBeside (fixed.map Prod.fst)
      (Fields.insertAll (Fields.ofList fixed) (Value.toJsonFields properties)) = properties := by
  have hnames : Fields.names (Value.toJsonFields properties) = properties.names :=
    Value.names_toJsonFields properties
  have hfixed (name : String) : name ∈ fixed.map Prod.fst ↔ name ∈ (Fields.ofList fixed).names := by
    rw [Fields.ofList, Fields.mem_names_insertAll]
    simp [Fields.names]
  rw [propertiesBeside, Fields.without_insertAll (Fields.ascending_ofList fixed) ?_ ?_ hfixed]
  · exact Value.ofJsonFields_toJsonFields fun e he => Value.ofJson_toJson (hproperties.plain e he)
  · rw [Fields.Ascending, hnames]
    exact hproperties.ascending
  · intro name hname hmem
    rw [hnames] at hname
    exact hapart name ((hfixed name).2 hmem) hname

theorem notMem_names_propertiesBeside {fixed : List String} {fields : Fields Json}
    (h : name ∈ fixed) : name ∉ Fields.names (propertiesBeside fixed fields) := by
  rw [Fields.names, propertiesBeside, Value.names_ofJsonFields]
  simp [Fields.without, h]

end Flattened

/-! ## Nodes and edges -/

/-- The fields that every node has. -/
def NodeView.fixed (n : NodeView) : List (String × Json) :=
  [("id", .string n.id), ("labels", .strings n.labels), ("type", .string n.type)]

/-- The fields that every edge has. -/
def EdgeView.fixed (e : EdgeView) : List (String × Json) :=
  [("id", .string e.id), ("source", .string e.source), ("target", .string e.target),
    ("type", .string e.type)]

/-- No property is named like a fixed field. -/
def NodeView.Unshadowed (n : NodeView) : Prop :=
  ∀ name ∈ ["id", "labels", "type"], name ∉ Fields.names n.properties

def EdgeView.Unshadowed (e : EdgeView) : Prop :=
  ∀ name ∈ ["id", "source", "target", "type"], name ∉ Fields.names e.properties

theorem NodeView.ofJson_eq_some {fields : Fields Json} {n : NodeView} :
    ofJson (.object fields) = some n ↔
      required fields ["id"] asString = some n.id ∧
      required fields ["labels"] (asList asString) = some n.labels ∧
      required fields ["type"] asString = some n.type ∧
      propertiesBeside ["id", "labels", "type"] fields = n.properties := by
  simp only [ofJson, asObject, ↓read_eq_some, Option.some.injEq, exists_eq_left', pure]
  constructor
  · rintro ⟨_, hid, _, hlabels, _, htype, rfl⟩
    exact ⟨hid, hlabels, htype, rfl⟩
  · rintro ⟨hid, hlabels, htype, hproperties⟩
    exact ⟨_, hid, _, hlabels, _, htype, hproperties ▸ rfl⟩

theorem EdgeView.ofJson_eq_some {fields : Fields Json} {e : EdgeView} :
    ofJson (.object fields) = some e ↔
      required fields ["id"] asString = some e.id ∧
      required fields ["source"] asString = some e.source ∧
      required fields ["target"] asString = some e.target ∧
      required fields ["type"] asString = some e.type ∧
      propertiesBeside ["id", "source", "target", "type"] fields = e.properties := by
  simp only [ofJson, asObject, ↓read_eq_some, Option.some.injEq, exists_eq_left', pure]
  constructor
  · rintro ⟨_, hid, _, hsource, _, htarget, _, htype, rfl⟩
    exact ⟨hid, hsource, htarget, htype, rfl⟩
  · rintro ⟨hid, hsource, htarget, htype, hproperties⟩
    exact ⟨_, hid, _, hsource, _, htarget, _, htype, hproperties ▸ rfl⟩

theorem NodeView.ofJson_toJson_iff {n : NodeView} (h : Properties.Tellable n.properties) :
    ofJson n.toJson = some n ↔ n.Unshadowed := by
  rw [toJson, flattened, ofJson_eq_some]
  constructor
  · rintro ⟨-, -, -, hproperties⟩ name hname
    rw [← hproperties]
    exact notMem_names_propertiesBeside hname
  · intro hapart
    have hnames : ["id", "labels", "type"].Nodup := by decide
    have hfound := get?_flattened n.fixed hnames hapart
    simp only [fixed, List.forall_mem_cons] at hfound
    obtain ⟨hid, hlabels, htype, -⟩ := hfound
    rw [required_eq hid, required_eq hlabels, required_eq htype]
    exact ⟨rfl, asList_strings _, rfl, propertiesBeside_flattened n.fixed h hapart⟩

theorem EdgeView.ofJson_toJson_iff {e : EdgeView} (h : Properties.Tellable e.properties) :
    ofJson e.toJson = some e ↔ e.Unshadowed := by
  rw [toJson, flattened, ofJson_eq_some]
  constructor
  · rintro ⟨-, -, -, -, hproperties⟩ name hname
    rw [← hproperties]
    exact notMem_names_propertiesBeside hname
  · intro hapart
    have hnames : ["id", "source", "target", "type"].Nodup := by decide
    have hfound := get?_flattened e.fixed hnames hapart
    simp only [fixed, List.forall_mem_cons] at hfound
    obtain ⟨hid, hsource, htarget, htype, -⟩ := hfound
    rw [required_eq hid, required_eq hsource, required_eq htarget, required_eq htype]
    exact ⟨rfl, rfl, rfl, rfl, propertiesBeside_flattened e.fixed h hapart⟩

/-! ## Summaries -/

theorem Page.ofJson_toJson {page : Page} (hlimit : page.limit ≤ maxIdentity)
    (hoffset : page.offset ≤ maxIdentity) : ofJson page.toJson = some page := by
  have hfound := get?_ofList [("limit", ofNat page.limit), ("offset", ofNat page.offset)] (by simp)
  simp only [List.forall_mem_cons] at hfound
  obtain ⟨hl, ho, -⟩ := hfound
  simp only [toJson, ofJson, record, asObject, required_eq hl, required_eq ho, asNat_ofNat hlimit,
    asNat_ofNat hoffset, Option.bind_eq_bind, Option.bind_some, pure]

namespace Summary

variable {s : Summary}

def entries (s : Summary) : List (String × Json) :=
  [("total_nodes", .ofNat s.totalNodes),
    ("total_edges", .ofNat s.totalEdges),
    ("node_type_counts", .ofFields Json.ofNat s.nodeTypeCounts),
    ("edge_type_counts", .ofFields Json.ofNat s.edgeTypeCounts),
    ("mandate_status_counts", .ofFields Json.ofNat s.mandateStatusCounts)] ++
    optionalField "applied_filters" Filter.toJson s.filter ++
    optionalField "query_params" Page.toJson s.page

/-- All numbers that a summary has. -/
def numbers (s : Summary) : List Nat :=
  [s.totalNodes, s.totalEdges] ++ s.nodeTypeCounts.map Prod.snd ++ s.edgeTypeCounts.map Prod.snd ++
    s.mandateStatusCounts.map Prod.snd ++ s.page.elim [] fun page => [page.limit, page.offset]

theorem nodup_names : (s.entries.map Prod.fst).Nodup := by
  unfold entries
  cases s.filter <;> cases s.page <;> simp [optionalField]

theorem ofJson_eq_some {fields : Fields Json} :
    ofJson (.object fields) = some s ↔
      required fields ["total_nodes"] asNat = some s.totalNodes ∧
      required fields ["total_edges"] asNat = some s.totalEdges ∧
      required fields ["node_type_counts"] (asFields asNat) = some s.nodeTypeCounts ∧
      required fields ["edge_type_counts"] (asFields asNat) = some s.edgeTypeCounts ∧
      required fields ["mandate_status_counts"] (asFields asNat) = some s.mandateStatusCounts ∧
      withDefault fields ["applied_filters"] none (nullable Filter.ofJson) = some s.filter ∧
      withDefault fields ["query_params"] none (nullable Page.ofJson) = some s.page := by
  simp only [ofJson, asObject, ↓read_eq_some, Option.some.injEq, exists_eq_left', pure]
  constructor
  · rintro ⟨_, hnodes, _, hedges, _, hnodeTypes, _, hedgeTypes, _, hstatuses, _, hfilter, _, hpage,
      rfl⟩
    exact ⟨hnodes, hedges, hnodeTypes, hedgeTypes, hstatuses, hfilter, hpage⟩
  · rintro ⟨hnodes, hedges, hnodeTypes, hedgeTypes, hstatuses, hfilter, hpage⟩
    exact ⟨_, hnodes, _, hedges, _, hnodeTypes, _, hedgeTypes, _, hstatuses, _, hfilter, _, hpage,
      rfl⟩

theorem get?_filter :
    Fields.get? (Fields.ofList s.entries) "applied_filters" = s.filter.map Filter.toJson := by
  cases h : s.filter with
  | none =>
    refine Fields.get?_insertAll_of_notMem [] ?_
    cases hpage : s.page <;> simp [entries, optionalField, h, hpage]
  | some f =>
    exact get?_ofList s.entries nodup_names ("applied_filters", f.toJson)
      (by simp [entries, optionalField, h])

theorem get?_page :
    Fields.get? (Fields.ofList s.entries) "query_params" = s.page.map Page.toJson := by
  cases h : s.page with
  | none =>
    refine Fields.get?_insertAll_of_notMem [] ?_
    cases hfilter : s.filter <;> simp [entries, optionalField, h, hfilter]
  | some page =>
    exact get?_ofList s.entries nodup_names ("query_params", page.toJson)
      (by simp [entries, optionalField, h])

theorem asFields_counts {counts : Fields Nat} (h : ∀ n ∈ counts.map Prod.snd, n ≤ maxIdentity) :
    asFields asNat (ofFields ofNat counts) = some counts :=
  asFields_ofFields_iff.2 fun _ hp => asNat_ofNat (h _ (List.mem_map_of_mem hp))

theorem ofJson_toJson_iff (h : ∀ n ∈ s.numbers, n ≤ maxIdentity) :
    ofJson s.toJson = some s ↔ ∀ f, s.filter = some f → f.Finite := by
  simp only [numbers, List.forall_mem_append, List.forall_mem_cons] at h
  obtain ⟨⟨⟨⟨⟨hnodes, hedges, -⟩, hnodeTypes⟩, hedgeTypes⟩, hstatuses⟩, hpage⟩ := h
  have hpage (page : Page) (hsome : s.page = some page) : Page.ofJson page.toJson = some page := by
    rw [hsome] at hpage
    exact Page.ofJson_toJson (hpage _ (by simp)) (hpage _ (by simp))
  have hfound := fun p hp => get?_ofList s.entries nodup_names p
    (List.mem_append_left _ (List.mem_append_left _ hp))
  simp only [List.forall_mem_cons] at hfound
  obtain ⟨hn, he, hnt, het, hms, -⟩ := hfound
  have hwritten : s.toJson = .object (Fields.ofList s.entries) := rfl
  rw [hwritten, ofJson_eq_some, required_eq hn, required_eq he, required_eq hnt, required_eq het,
    required_eq hms, asNat_ofNat hnodes, asNat_ofNat hedges, asFields_counts hnodeTypes,
    asFields_counts hedgeTypes, asFields_counts hstatuses,
    withDefault_optional get?_filter fun _ => Json.noConfusion,
    withDefault_optional get?_page fun _ => Json.noConfusion]
  simp only [Filter.ofJson_toJson_iff, true_and]
  exact and_iff_left hpage

end Summary

/-! ## Subgraphs -/

namespace Subgraph

variable {r : Subgraph}

/-- Properties are such that JSON can tell their values apart, and numbers have at most 64 bits. -/
structure Encodable (r : Subgraph) : Prop where
  nodes : ∀ n ∈ r.nodes, Properties.Tellable n.properties
  edges : ∀ e ∈ r.edges, Properties.Tellable e.properties
  numbers : ∀ n ∈ r.summary.numbers, n ≤ maxIdentity

/-- No property is named like a fixed field, and the filter has no bound that is written as if it
was not there. -/
structure Intact (r : Subgraph) : Prop where
  nodes : ∀ n ∈ r.nodes, n.Unshadowed
  edges : ∀ e ∈ r.edges, e.Unshadowed
  filter : ∀ f, r.summary.filter = some f → f.Finite

theorem ofJsonFields_eq_some {fields : Fields Json} :
    ofJsonFields fields = some r ↔
      required fields ["nodes"] (asList NodeView.ofJson) = some r.nodes ∧
      required fields ["edges"] (asList EdgeView.ofJson) = some r.edges ∧
      required fields ["metadata"] Summary.ofJson = some r.summary := by
  simp only [ofJsonFields, ↓read_eq_some, Option.some.injEq, pure]
  constructor
  · rintro ⟨_, hnodes, _, hedges, _, hsummary, rfl⟩
    exact ⟨hnodes, hedges, hsummary⟩
  · rintro ⟨hnodes, hedges, hsummary⟩
    exact ⟨_, hnodes, _, hedges, _, hsummary, rfl⟩

/-- The fields of a result are read back from an object that has them, exactly if it is intact. -/
theorem ofJsonFields_iff (h : r.Encodable) {fields : Fields Json}
    (hfound : ∀ p ∈ r.jsonFields, Fields.get? fields p.1 = some p.2) :
    ofJsonFields fields = some r ↔ r.Intact := by
  simp only [jsonFields, List.forall_mem_cons] at hfound
  obtain ⟨hnodes, hedges, hsummary, -⟩ := hfound
  rw [ofJsonFields_eq_some, required_eq hnodes, required_eq hedges, required_eq hsummary,
    asList_ofList_iff, asList_ofList_iff, Summary.ofJson_toJson_iff h.numbers,
    forall₂_congr fun n hn => NodeView.ofJson_toJson_iff (h.nodes n hn),
    forall₂_congr fun e he => EdgeView.ofJson_toJson_iff (h.edges e he)]
  exact ⟨fun ⟨hn, he, hf⟩ => ⟨hn, he, hf⟩, fun h => ⟨h.nodes, h.edges, h.filter⟩⟩

theorem ofJson_toJson_iff (h : r.Encodable) : ofJson r.toJson = some r ↔ r.Intact :=
  ofJsonFields_iff h (get?_ofList r.jsonFields (by simp [jsonFields]))

end Subgraph

end FacetedGraph
