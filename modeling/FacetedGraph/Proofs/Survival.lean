import FacetedGraph.Proofs.Paths
import FacetedGraph.Proofs.Result.Views

/-!
# Results survive their JSON form

A path search and an influence network put the fields of a result beside their own. They are read
back where the result is, as long as all weights are numbers that JSON has.

## Main statements

* `PathsResult.ofJson_toJson_iff`, `InfluenceResult.ofJson_toJson_iff`.
* `Subgraph.survives_iff` — which results are read back.
* `infinite_not_read_back` — a path search that is not, although all its properties are.
-/

namespace FacetedGraph

open Json

/-! ## Answers of the traversals -/

theorem PathView.ofJson_toJson_iff {p : PathView} :
    ofJson p.toJson = some p ↔ p.weight.isFinite = true := by
  have hfound := get?_ofList [("nodes", strings p.nodes),
    ("relationships", strings p.relationships), ("weight", ofReal p.weight)] (by simp)
  simp only [List.forall_mem_cons] at hfound
  obtain ⟨hnodes, hrelationships, hweight, -⟩ := hfound
  simp only [toJson, record, ofJson, asObject, required_eq hnodes, required_eq hrelationships,
    required_eq hweight, asList_strings, ↓read_eq_some, Option.some.injEq, exists_eq_left', pure]
  rw [← asReal_ofReal_iff]
  constructor
  · rintro ⟨x, hx, heq⟩
    exact hx.trans (congrArg (fun q => some q.weight) heq)
  · exact fun h => ⟨_, h, rfl⟩

theorem PathsResult.ofJson_toJson_iff {r : PathsResult} (h : r.graph.Encodable) :
    ofJson r.toJson = some r ↔ r.graph.Intact ∧ ∀ p ∈ r.paths, p.weight.isFinite = true := by
  have hfound := get?_ofList (("paths", ofList PathView.toJson r.paths) :: r.graph.jsonFields)
    (by simp [Subgraph.jsonFields])
  obtain ⟨hpaths, hgraph⟩ := List.forall_mem_cons.1 hfound
  have hread : asList PathView.ofJson (ofList PathView.toJson r.paths) = some r.paths ↔
      ∀ p ∈ r.paths, p.weight.isFinite = true :=
    asList_ofList_iff.trans (forall₂_congr fun _ _ => PathView.ofJson_toJson_iff)
  rw [← hread, ← Subgraph.ofJsonFields_iff h hgraph]
  simp only [toJson, record, ofJson, asObject, required_eq hpaths, ↓read_eq_some,
    Option.some.injEq, exists_eq_left', pure]
  constructor
  · rintro ⟨_, hp, _, hg, rfl⟩
    exact ⟨hg, hp⟩
  · rintro ⟨hg, hp⟩
    exact ⟨_, hp, _, hg, rfl⟩

/-- All numbers that a reach has. -/
def Reach.numbers (r : Reach) : List Nat :=
  [r.companiesInfluenced, r.productsInfluenced, r.fieldConsultantsManaged, r.totalRelationships]

theorem Reach.ofJson_toJson {r : Reach} (h : ∀ n ∈ r.numbers, n ≤ maxIdentity) :
    ofJson r.toJson = some r := by
  simp only [numbers, List.forall_mem_cons] at h
  obtain ⟨hcompanies, hproducts, hmanaged, htotal, -⟩ := h
  have hfound := get?_ofList [("companies_influenced", ofNat r.companiesInfluenced),
    ("products_influenced", ofNat r.productsInfluenced),
    ("field_consultants_managed", ofNat r.fieldConsultantsManaged),
    ("total_relationships", ofNat r.totalRelationships)] (by simp)
  simp only [List.forall_mem_cons] at hfound
  obtain ⟨hc, hp, hm, ht, -⟩ := hfound
  simp only [toJson, record, ofJson, asObject, required_eq hc, required_eq hp, required_eq hm,
    required_eq ht, asNat_ofNat hcompanies, asNat_ofNat hproducts, asNat_ofNat hmanaged,
    asNat_ofNat htotal, Option.bind_eq_bind, Option.bind_some, pure]

theorem InfluenceResult.ofJson_toJson_iff {r : InfluenceResult} (h : r.graph.Encodable)
    (hreach : ∀ p ∈ r.reach, ∀ n ∈ p.2.numbers, n ≤ maxIdentity) :
    ofJson r.toJson = some r ↔ r.graph.Intact := by
  have hfound := get?_ofList
    (("consultant_metrics", ofFields Reach.toJson r.reach) :: r.graph.jsonFields)
    (by simp [Subgraph.jsonFields])
  obtain ⟨hmetrics, hgraph⟩ := List.forall_mem_cons.1 hfound
  have hread : asFields Reach.ofJson (ofFields Reach.toJson r.reach) = some r.reach :=
    asFields_ofFields_iff.2 fun p hp => Reach.ofJson_toJson (hreach p hp)
  rw [← Subgraph.ofJsonFields_iff h hgraph]
  simp only [toJson, record, ofJson, asObject, required_eq hmetrics, hread, ↓read_eq_some,
    Option.some.injEq, exists_eq_left', pure]
  constructor
  · rintro ⟨_, hg, heq⟩
    exact hg.trans (congrArg (fun q => some q.graph) heq)
  · exact fun hg => ⟨_, hg, rfl⟩

/-! ## All results -/

namespace Subgraph

/-- A result with properties that JSON can tell is read back exactly if no property is named like a
fixed field and its filter has no bound of ratings that is no finite number. That is so for the
result alone, for a path search if the weights of its paths are finite numbers too, and for an
influence network. -/
theorem survives_iff {r : Subgraph} (h : r.Encodable) :
    (ofJson r.toJson = some r ↔ r.Intact) ∧
    (∀ paths, PathsResult.ofJson (PathsResult.mk paths r).toJson = some ⟨paths, r⟩ ↔
      r.Intact ∧ ∀ p ∈ paths, p.weight.isFinite = true) ∧
    ∀ reach : Fields Reach, (∀ p ∈ reach, ∀ n ∈ p.2.numbers, n ≤ maxIdentity) →
      (InfluenceResult.ofJson (InfluenceResult.mk r reach).toJson = some ⟨r, reach⟩ ↔ r.Intact) :=
  ⟨ofJson_toJson_iff h, fun _ => PathsResult.ofJson_toJson_iff h,
    fun _ hreach => InfluenceResult.ofJson_toJson_iff h hreach⟩

/-- What a fetch tells of a fund with some properties and of its link to itself. -/
def fund (properties : List (String × Value)) : Subgraph where
  nodes := [⟨"7", ["PRODUCT"], "PRODUCT", properties⟩]
  edges := [⟨"2", "7", "7", "LINKED", [("weight", .bool true)]⟩]
  summary := {
    totalNodes := 1
    totalEdges := 1
    nodeTypeCounts := [("PRODUCT", 1)]
    edgeTypeCounts := [("LINKED", 1)]
    filter := some { ratingRange := some { min := some (.ofInt 3) } }
    page := some .default }

/-- Numbers of both sorts in a list, and a map with a name that would not do for a property. -/
def ratedTwice : List (String × Value) :=
  [("history", .list [.int 3, .float (.ofInt 3)]), ("home", .map [("id", .null)])]

theorem isFinite_three : (Binary64.ofInt 3).isFinite = true := by decide +kernel

theorem encodable_fund {properties : List (String × Value)} (h : Properties.Tellable properties) :
    (fund properties).Encodable where
  nodes := List.forall_mem_singleton.2 h
  edges := List.forall_mem_singleton.2
    ⟨List.pairwise_singleton _ _, List.forall_mem_singleton.2 (.bool true)⟩
  numbers := by
    change ∀ n ∈ [1, 1, 1, 1, 1000, 0], n ≤ maxIdentity
    decide

theorem tellable_ratedTwice : Properties.Tellable ratedTwice where
  ascending := by
    change ["history", "home"].Pairwise (· < ·)
    decide
  plain := by
    refine List.forall_mem_cons.2 ⟨.list ?_, List.forall_mem_singleton.2 (.map ?_)⟩
    · exact List.forall_mem_cons.2 ⟨.int 3, List.forall_mem_singleton.2 (.float isFinite_three)⟩
    · exact List.forall_mem_singleton.2 .null

theorem intact_fund : (fund ratedTwice).Intact where
  nodes := List.forall_mem_singleton.2 (by
    change ∀ name ∈ ["id", "labels", "type"], name ∉ ["history", "home"]
    decide)
  edges := List.forall_mem_singleton.2 (by
    change ∀ name ∈ ["id", "source", "target", "type"], name ∉ ["weight"]
    decide)
  filter := by
    rintro _ ⟨⟩ _ ⟨⟩
    refine ⟨?_, fun _ hmax => by cases hmax⟩
    rintro _ ⟨⟩
    exact isFinite_three

/-- A property of the name of a fixed field is enough for the fund to be lost. -/
theorem survives_fund :
    (fund ratedTwice).Encodable ∧ ofJson (fund ratedTwice).toJson = some (fund ratedTwice) ∧
      PathsResult.ofJson (PathsResult.mk [⟨["7", "7"], ["2"], .ofInt 3⟩] (fund ratedTwice)).toJson =
        some ⟨[⟨["7", "7"], ["2"], .ofInt 3⟩], fund ratedTwice⟩ ∧
      InfluenceResult.ofJson (InfluenceResult.mk (fund ratedTwice) [("7", {})]).toJson =
        some ⟨fund ratedTwice, [("7", {})]⟩ ∧
      (fund [("type", .string "ETF")]).Encodable ∧
      ofJson (fund [("type", .string "ETF")]).toJson ≠ some (fund [("type", .string "ETF")]) := by
  have hfund := encodable_fund tellable_ratedTwice
  have htyped : (fund [("type", .string "ETF")]).Encodable := encodable_fund
    ⟨List.pairwise_singleton _ _, List.forall_mem_singleton.2 (.string "ETF")⟩
  obtain ⟨hself, hpaths, hinfluence⟩ := survives_iff hfund
  refine ⟨hfund, hself.2 intact_fund, (hpaths _).2 ⟨intact_fund, ?_⟩,
    (hinfluence _ ?_).2 intact_fund, htyped, fun hread => ?_⟩
  · exact List.forall_mem_singleton.2 isFinite_three
  · exact List.forall_mem_singleton.2 (by decide)
  · have hintact := (survives_iff htyped).1.1 hread
    exact hintact.nodes _ List.mem_cons_self "type" (by decide) List.mem_cons_self

end Subgraph

/-! ### Numbers that JSON does not have -/

/-- Two companies with a link of infinite weight, told by a text. -/
def MemoryStore.impassable : MemoryStore :=
  let s := (({} : MemoryStore).createNode ["COMPANY"] []).1
  let s := (s.createNode ["COMPANY"] []).1
  (s.createRelationship ⟨0⟩ ⟨1⟩ "LINKED" [("weight", .string "inf")]).1

/-- The path over a link of infinite weight. -/
def PathsResult.impassable : PathsResult where
  paths := [⟨["0", "1"], ["0"], .ofMagnitude .infinity⟩]
  graph := {
    nodes := [⟨"0", ["COMPANY"], "COMPANY", []⟩, ⟨"1", ["COMPANY"], "COMPANY", []⟩]
    edges := [⟨"0", "0", "1", "LINKED", [("weight", .string "inf")]⟩]
    summary := {
      totalNodes := 2
      totalEdges := 1
      nodeTypeCounts := [("COMPANY", 2)]
      edgeTypeCounts := [("LINKED", 1)] } }

/-- Ratings up to infinity. -/
def Subgraph.boundless : Subgraph :=
  Subgraph.answering {} { ratingRange := some { max := some (.ofMagnitude .infinity) } } .default

theorem Engine.paths_impassable :
    (paths {} [⟨0⟩] [⟨1⟩] 1).run MemoryStore.impassable =
      (.ok .impassable, MemoryStore.impassable) := by
  have hfound : MemoryStore.impassable.graph.lightestPaths (distinct [⟨0⟩])
      (apart [⟨0⟩] [⟨1⟩]) 1 =
        [⟨[⟨⟨0⟩, ["COMPANY"], []⟩, ⟨⟨1⟩, ["COMPANY"], []⟩],
          [⟨⟨0⟩, ⟨0⟩, ⟨1⟩, "LINKED", [("weight", .string "inf")]⟩], .infinity⟩] := rfl
  rw [paths_ok ⟨rfl, rfl, rfl⟩ {} [⟨0⟩] [⟨1⟩] (by decide), Graph.searchPaths, hfound,
    List.mergeSort_singleton]
  rfl

theorem PathsResult.encodable_impassable : impassable.graph.Encodable where
  nodes := by
    have hnone : Properties.Tellable ([] : List (String × Value)) := ⟨.nil, fun _ h => by cases h⟩
    exact List.forall_mem_cons.2 ⟨hnone, List.forall_mem_singleton.2 hnone⟩
  edges := List.forall_mem_singleton.2
    ⟨List.pairwise_singleton _ _, List.forall_mem_singleton.2 (.string "inf")⟩
  numbers := by
    change ∀ n ∈ [2, 1, 2, 1], n ≤ maxIdentity
    decide

theorem Subgraph.encodable_boundless : boundless.Encodable where
  nodes _ h := by cases h
  edges _ h := by cases h
  numbers := by
    change ∀ n ∈ [0, 0, 1000, 0], n ≤ maxIdentity
    decide

/-- No property is in the way of the path found or of a boundless result, and yet they are not read
back. -/
theorem infinite_not_read_back :
    (Engine.paths {} [⟨0⟩] [⟨1⟩] 1).run MemoryStore.impassable =
        (.ok .impassable, MemoryStore.impassable) ∧
      PathsResult.impassable.graph.Encodable ∧ PathsResult.impassable.graph.Intact ∧
      PathsResult.ofJson PathsResult.impassable.toJson ≠ some .impassable ∧
      Subgraph.boundless.Encodable ∧ Subgraph.boundless.nodes = [] ∧
      Subgraph.boundless.edges = [] ∧
      Subgraph.ofJson Subgraph.boundless.toJson ≠ some .boundless := by
  have hinfinite : (Binary64.ofMagnitude .infinity).isFinite ≠ true := by decide
  have hpath : PathsResult.impassable.graph.Encodable := PathsResult.encodable_impassable
  have hboundless : Subgraph.boundless.Encodable := Subgraph.encodable_boundless
  refine ⟨Engine.paths_impassable, hpath, ?_, fun hread => ?_, hboundless, rfl, rfl,
    fun hread => ?_⟩
  · refine ⟨?_, List.forall_mem_singleton.2 ?_, fun _ h => by cases h⟩
    · exact List.forall_mem_cons.2
        ⟨fun _ _ => List.not_mem_nil, List.forall_mem_singleton.2 fun _ _ => List.not_mem_nil⟩
    · change ∀ name ∈ ["id", "source", "target", "type"], name ∉ ["weight"]
      decide
  · have hfinite := ((PathsResult.ofJson_toJson_iff hpath).1 hread).2
    exact hinfinite (hfinite _ List.mem_cons_self)
  · have hfinite := ((Subgraph.ofJson_toJson_iff hboundless).1 hread).filter
    exact hinfinite ((hfinite _ rfl _ rfl).2 _ rfl)

end FacetedGraph
