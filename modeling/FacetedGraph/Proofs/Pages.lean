import FacetedGraph.Proofs.Expansion
import FacetedGraph.Proofs.Graph.Surroundings
import FacetedGraph.Proofs.Selection

/-!
# Answers page by page

An answer that is cut into pages of one size comes out whole: the pages one after the other are the
answer, and no entry is on two of them. The rows of a page depend on the entries of the page alone,
so this carries over from subjects to rows, and from rows to the nodes and edges of results.

## Main definitions

* `Page.nth`, `Page.count` — the pages of a size, and how many of them are not empty.
* `Graph.answer` — the rows that a plan comes down to.

## Main statements

* `Page.mem_window_nth` — the page that an entry is on, told by its place.
* `Page.flatMap_window_nth` — the pages one after the other.
* `Graph.Sound.mem_nodes_pages`, `Graph.Sound.mem_edges_pages` — results page by page.
* `Graph.pages_partition` — the pages of fetches and expansions.
-/

namespace FacetedGraph

/-! ## Pages of a list -/

namespace Page

variable {α : Type} {limit i : Nat} {items : List α} {a : α}

/-- The pages of a size, counted from zero. -/
def nth (limit i : Nat) : Page := ⟨limit, i * limit⟩

/-- How many pages so many entries take. -/
def count (limit length : Nat) : Nat := (length + limit - 1) / limit

theorem count_le_iff (hlimit : 1 ≤ limit) {length : Nat} :
    count limit length ≤ i ↔ length ≤ i * limit := by
  rw [count, ← Nat.lt_succ_iff, Nat.div_lt_iff_lt_mul hlimit, Nat.succ_mul]
  omega

theorem window_nth_eq_nil (hlimit : 1 ≤ limit) :
    (nth limit i).window items = [] ↔ count limit items.length ≤ i := by
  simp only [count_le_iff hlimit, window, nth, List.take_eq_nil_iff, List.drop_eq_nil_iff]
  omega

/-- An entry is on the page that its place falls on. -/
theorem mem_window_nth (hlimit : 1 ≤ limit) :
    a ∈ (nth limit i).window items ↔ ∃ j, items[j]? = some a ∧ j / limit = i := by
  simp only [window, nth, List.mem_iff_getElem?, List.getElem?_take, List.getElem?_drop,
    Nat.div_eq_iff hlimit]
  constructor
  · rintro ⟨k, hk⟩
    split at hk
    case isTrue hlt => exact ⟨i * limit + k, hk, by omega⟩
    case isFalse => cases hk
  · rintro ⟨j, hj, hbefore, hafter⟩
    refine ⟨j - i * limit, ?_⟩
    rwa [if_pos (by omega), Nat.add_sub_cancel' hbefore]

/-- Where no entry occurs twice, none is on two pages. -/
theorem existsUnique_mem_window_nth (hlimit : 1 ≤ limit) (hnodup : items.Nodup) (ha : a ∈ items) :
    ∃! i, a ∈ (nth limit i).window items := by
  obtain ⟨j, hj⟩ := List.mem_iff_getElem?.1 ha
  refine ⟨j / limit, (mem_window_nth hlimit).2 ⟨j, hj, rfl⟩, fun i hi => ?_⟩
  obtain ⟨k, hk, rfl⟩ := (mem_window_nth hlimit).1 hi
  have hlt := (List.getElem?_eq_some_iff.1 hk).1
  rw [(List.getElem?_inj hlt hnodup).1 (hk.trans hj.symm)]

/-- Some pages, one after the other. -/
theorem flatMap_range_window_nth (limit k : Nat) (items : List α) :
    (List.range k).flatMap (fun i => (nth limit i).window items) = items.take (k * limit) := by
  induction k with
  | zero => simp
  | succ k ih =>
    rw [List.range_succ, List.flatMap_append, ih, List.flatMap_singleton, Nat.succ_mul,
      List.take_add]
    rfl

theorem flatMap_window_nth (hlimit : 1 ≤ limit) (items : List α) :
    (List.range (count limit items.length)).flatMap (fun i => (nth limit i).window items) =
      items := by
  rw [flatMap_range_window_nth]
  exact List.take_of_length_le ((count_le_iff hlimit).1 (Nat.le_refl _))

theorem exists_mem_window_nth (hlimit : 1 ≤ limit) {P : α → Prop} :
    (∃ a ∈ items, P a) ↔
      ∃ i < count limit items.length, ∃ a ∈ (nth limit i).window items, P a := by
  have hmem (a : α) : a ∈ items ↔
      ∃ i < count limit items.length, a ∈ (nth limit i).window items := by
    conv_lhs => rw [← flatMap_window_nth hlimit items]
    simp only [List.mem_flatMap, List.mem_range]
  simp only [hmem]
  grind

end Page

namespace Graph

/-- Assembles the query of a plan and evaluates it. -/
def answer (g : Graph) (plan : Plan) : Except Error (List Row) := do
  g.evaluate (← plan.query).plan

theorem answer_ok (g : Graph) {plan : Plan} (h : plan.check = .ok ()) :
    g.answer plan = g.evaluate plan := by
  rw [answer, Plan.query_ok h]
  rfl

variable {g : Graph} {limit i : Nat}

/-! ## Results page by page -/

section Rows

variable {rows : List Row} (h : g.Sound) (hlimit : 1 ≤ limit)
  (hrows : ∀ row ∈ rows, row.StoredIn g)

include h hlimit hrows

theorem Sound.mem_nodes_pages {view : NodeView} :
    view ∈ (Subgraph.ofRows rows).nodes ↔
      ∃ i < Page.count limit rows.length,
        view ∈ (Subgraph.ofRows ((Page.nth limit i).window rows)).nodes := by
  have hpage (i : Nat) : ∀ row ∈ (Page.nth limit i).window rows, row.StoredIn g :=
    fun row hrow => hrows row ((Page.window_sublist _ rows).subset hrow)
  simp only [h.mem_nodes_ofRows hrows, h.mem_nodes_ofRows (hpage _)]
  exact Page.exists_mem_window_nth hlimit

theorem Sound.mem_edges_pages {view : EdgeView} :
    view ∈ (Subgraph.ofRows rows).edges ↔
      ∃ i < Page.count limit rows.length,
        view ∈ (Subgraph.ofRows ((Page.nth limit i).window rows)).edges := by
  have hpage (i : Nat) : ∀ row ∈ (Page.nth limit i).window rows, row.StoredIn g :=
    fun row hrow => hrows row ((Page.window_sublist _ rows).subset hrow)
  simp only [h.mem_edges_ofRows hrows, h.mem_edges_ofRows (hpage _)]
  exact Page.exists_mem_window_nth hlimit

end Rows

/-! ## Pages of a fetch -/

section Fetch

variable (f : Filter) (neighborhood : Neighborhood)

/-- The rows of all subjects. -/
noncomputable def fetchRows (g : Graph) (f : Filter) (neighborhood : Neighborhood) : List Row :=
  (g.eligible f).map (g.fetchRow f neighborhood)

theorem answer_fetch (g : Graph) (page : Page) :
    g.answer ⟨.fetch neighborhood, f.compiled "n" "r", page⟩ =
      .ok (page.window (g.fetchRows f neighborhood)) := by
  rw [g.answer_ok (Engine.check_fetch _ _ _), evaluate_fetch, fetchRows, Page.window_map]

theorem map_value?_fetchRows (g : Graph) :
    (g.fetchRows f neighborhood).map (·.value? "n") = (g.eligible f).map (some <| .node ·) := by
  rw [fetchRows, List.map_map]
  rfl

/-- A node heads a row of the pages that have it as a subject. -/
theorem exists_mem_window_fetchRows {page : Page} {n : Node} :
    (∃ row ∈ page.window (g.fetchRows f neighborhood), row.value? "n" = some (.node n)) ↔
      n ∈ page.window (g.eligible f) := by
  have hvalue (m : Node) : (g.fetchRow f neighborhood m).value? "n" = some (.node m) := rfl
  rw [fetchRows, Page.window_map]
  simp [hvalue]

theorem Sound.ascends_eligible (h : g.Sound) :
    Ascends (fun n : Node => n.id.number) (g.eligible f) := by
  rw [eligible]
  split
  · exact h.ascends_related f
  · exact h.ascends_admitted f

theorem Sound.storedIn_fetchRows (h : g.Sound) :
    ∀ row ∈ g.fetchRows f neighborhood, row.StoredIn g := by
  intro row hrow
  obtain ⟨n, hn, rfl⟩ := List.mem_map.1 hrow
  have hn : n ∈ g.nodes := (h.mem_eligible.1 hn).1
  constructor
  · intro m hm
    rw [fetchRow, Row.nodes_nodeRow, rowNodes] at hm
    split at hm
    case isTrue =>
      rcases List.mem_cons.1 hm with rfl | hm
      · exact hn
      · exact (h.mem_distinctNodes_farNodes.1 hm).1
    case isFalse => exact ((h.mem_nodesAround hn).1 hm).1
  · intro r hr
    rw [fetchRow, Row.relationships_nodeRow, rowRelationships] at hr
    split at hr
    case isTrue => exact ((h.mem_distinctRelationships_relevant f).1 hr).1
    case isFalse => exact (h.mem_relationshipsAround.1 hr).1

end Fetch

/-! ## Pages of an expansion -/

section Expansion

variable {seeds : List NodeId} {depth : Nat}

theorem answer_expand (g : Graph) (hdepth : 1 ≤ depth ∧ depth ≤ maxExpansionDepth) (page : Page) :
    g.answer { pattern := .expansion seeds depth, page } =
      g.evaluate { pattern := .expansion seeds depth, page } := by
  have hvalidate : (Pattern.expansion seeds depth).validate = .ok () := if_pos hdepth
  exact g.answer_ok (Plan.check_unfiltered hvalidate page)

theorem Sound.expand_eq_nil (h : g.Sound) {page : Page} :
    g.expand seeds depth page = [] ↔ page.window (g.ball seeds depth) = [] := by
  rw [h.expand_eq, List.map_eq_nil_iff]

theorem Sound.mem_nodes_expand (h : g.Sound) {page : Page} {n : Node} :
    NodeView.ofNode n ∈ (Subgraph.ofRows (g.expand seeds depth page)).nodes ↔
      n ∈ page.window (g.ball seeds depth) := by
  rw [h.nodes_expand, List.mem_map_of_injective NodeView.ofNode_injective]

/-- The edge of a relationship of the tree is on the page of the node where it starts. -/
theorem Sound.mem_edges_expand_iff (h : g.Sound) {page : Page} {n : Node} {r : Relationship}
    (hn : n ∈ g.ball seeds depth) (hr : r ∈ g.tree seeds depth) (hsource : r.source = n.id) :
    EdgeView.ofRelationship r ∈ (Subgraph.ofRows (g.expand seeds depth page)).edges ↔
      n ∈ page.window (g.ball seeds depth) := by
  rw [h.mem_edges_expand]
  constructor
  · rintro ⟨m, hm, q, -, hq, heq⟩
    obtain rfl := EdgeView.ofRelationship_injective heq
    have hstored := h.mem_ball.1 ((page.window_sublist _).subset hm)
    rwa [h.node_ext (h.mem_ball.1 hn).1 hstored.1 (hsource.symm.trans hq)]
  · exact fun hpage => ⟨n, hpage, r, hr, hsource, rfl⟩

end Expansion

/-! ## Answers -/

/-- The answers on the pages of a size, up to the first that is empty. -/
structure Paged (answer : Page → Except Error (List Row)) (limit count : Nat)
    (pages : Nat → List Row) : Prop where
  answer_eq : ∀ i, answer ⟨limit, i * limit⟩ = .ok (pages i)
  eq_nil_iff : ∀ i, pages i = [] ↔ count ≤ i

theorem Paged.view_eq {answer : Page → Except Error (List Row)} {count : Nat}
    {pages : Nat → List Row} (h : Paged answer limit count pages) {β : Type} {view : List Row → β}
    {i : Nat} {b : β} (hview : (answer ⟨limit, i * limit⟩).map view = .ok b) :
    view (pages i) = b := by
  rw [h.answer_eq] at hview
  exact Except.ok.inj hview

/-- Each subject of a fetch heads a row of exactly one page, subjects ascend over all pages, and the
pages together have the nodes and the edges of one page with all subjects. An expansion has each
node that is reached on exactly one page, and each relationship of the whole on exactly one page. -/
theorem pages_partition (hb : g.Built) (hlimit : 1 ≤ limit) :
    (∀ (f : Filter) (neighborhood : Neighborhood),
      ∃ (conditions : Conditions) (subjects : List Node) (count : Nat) (pages : Nat → List Row),
        f.conditions "n" (some "r") = .ok conditions ∧
        (∀ n, n ∈ subjects ↔ n ∈ g.nodes ∧ f.Admits n ∧ (f.constrainsRelationships = true →
          ∃ r ∈ g.relationships, r.touches n.id ∧ f.AdmitsRelationship r)) ∧
        Ascends (fun n : Node => n.id.number) subjects ∧
        Paged (fun page => g.answer ⟨.fetch neighborhood, conditions, page⟩) limit count pages ∧
        ((List.range count).flatMap pages).map (·.value? "n") = subjects.map (some <| .node ·) ∧
        (∀ n ∈ subjects, ∃! i, ∃ row ∈ pages i, row.value? "n" = some (.node n)) ∧
        ∀ whole : Page, whole.Covers subjects → ∃ rows,
          g.answer ⟨.fetch neighborhood, conditions, whole⟩ = .ok rows ∧
          (∀ view, view ∈ (Subgraph.ofRows rows).nodes ↔
            ∃ i < count, view ∈ (Subgraph.ofRows (pages i)).nodes) ∧
          ∀ view, view ∈ (Subgraph.ofRows rows).edges ↔
            ∃ i < count, view ∈ (Subgraph.ofRows (pages i)).edges) ∧
    ∀ (seeds : List NodeId) (depth : Nat),
      ∃ (near : List Node) (count : Nat) (pages : Nat → List Row),
        (∀ n, n ∈ near ↔ n ∈ g.nodes ∧
          ∃ seed ∈ seeds, (g.node? seed).isSome ∧ g.Within depth seed n.id) ∧
        (1 ≤ depth ∧ depth ≤ maxExpansionDepth → ∀ page,
          g.answer { pattern := .expansion seeds depth, page } =
            g.evaluate { pattern := .expansion seeds depth, page }) ∧
        Paged (fun page => g.evaluate { pattern := .expansion seeds depth, page }) limit count
          pages ∧
        (∀ n ∈ near, ∃! i, NodeView.ofNode n ∈ (Subgraph.ofRows (pages i)).nodes) ∧
        ∀ whole : Page, whole.Covers near → ∃ rows,
          g.evaluate { pattern := .expansion seeds depth, page := whole } = .ok rows ∧
          (Subgraph.ofRows rows).nodes = near.map NodeView.ofNode ∧
          ∀ edge ∈ (Subgraph.ofRows rows).edges,
            ∃! i, edge ∈ (Subgraph.ofRows (pages i)).edges := by
  have hsound := hb.sound
  refine ⟨fun f neighborhood => ?_, fun seeds depth => ?_⟩
  · let rows := g.fetchRows f neighborhood
    have hstored : ∀ row ∈ rows, row.StoredIn g := hsound.storedIn_fetchRows f neighborhood
    refine ⟨_, g.eligible f, Page.count limit rows.length, fun i => (Page.nth limit i).window rows,
      f.conditions_some "n" "r", fun n => hsound.mem_eligible, hsound.ascends_eligible f,
      ⟨fun i => g.answer_fetch f neighborhood _, fun i => Page.window_nth_eq_nil hlimit⟩,
      ?_, ?_, ?_⟩
    · rw [Page.flatMap_window_nth hlimit, map_value?_fetchRows]
    · intro n hn
      have hnodup : (g.eligible f).Nodup := .of_map _ (hsound.ascends_eligible f).nodup_map
      simp only [rows, exists_mem_window_fetchRows]
      exact Page.existsUnique_mem_window_nth hlimit hnodup hn
    · intro whole hwhole
      have hall : whole.window rows = rows := (whole.window_map _ _).trans (congrArg _ hwhole)
      exact ⟨rows, hall ▸ g.answer_fetch f neighborhood whole,
        fun view => hsound.mem_nodes_pages hlimit hstored,
        fun view => hsound.mem_edges_pages hlimit hstored⟩
  · have hnodup : (g.ball seeds depth).Nodup := .of_map _ hsound.ascends_ball.nodup_map
    refine ⟨g.ball seeds depth, Page.count limit (g.ball seeds depth).length,
      fun i => g.expand seeds depth (Page.nth limit i), fun n => hsound.mem_ball, g.answer_expand,
      ⟨fun i => rfl, fun i => ?_⟩, ?_, ?_⟩
    · rw [hsound.expand_eq_nil, Page.window_nth_eq_nil hlimit]
    · intro n hn
      simp only [hsound.mem_nodes_expand]
      exact Page.existsUnique_mem_window_nth hlimit hnodup hn
    · intro whole hwhole
      refine ⟨_, rfl, ?_, fun edge hedge => ?_⟩
      · rw [hsound.nodes_expand, hwhole]
      · obtain ⟨n, hn, r, hr, hsource, rfl⟩ := hsound.mem_edges_expand.1 hedge
        have hn := (whole.window_sublist _).subset hn
        simp only [hsound.mem_edges_expand_iff hn hr hsource]
        exact Page.existsUnique_mem_window_nth hlimit hnodup hn

/-- The ids of the nodes that rows amount to. -/
def resultIds (rows : List Row) : List String := (Subgraph.ofRows rows).nodes.map (·.id)

/-- In pages of two the sample takes two pages: with their neighbours the subjects `0` and `1` come
with `2`, and `2` and `3` come with `0` and `1`. What is within a hop of `2` takes two pages too. -/
theorem pages_partition_sample :
    MemoryStore.sample.graph.Built ∧ 1 ≤ 2 ∧
      (∃ (conditions : Conditions) (subjects : List Node) (count : Nat) (pages : Nat → List Row),
        Paged (fun page => MemoryStore.sample.graph.answer ⟨.fetch .oneHop, conditions, page⟩) 2
          count pages ∧
        resultIds (pages 0) = ["0", "1", "2"] ∧ resultIds (pages 1) = ["2", "1", "0", "3"] ∧
        (pages 2).length = 0 ∧
        ∀ n ∈ subjects, ∃! i, ∃ row ∈ pages i, row.value? "n" = some (.node n)) ∧
      ∃ (near : List Node) (count : Nat) (pages : Nat → List Row),
        Paged (fun page =>
          MemoryStore.sample.graph.evaluate { pattern := .expansion [⟨2⟩] 1, page }) 2 count pages ∧
        resultIds (pages 0) = ["0", "1"] ∧ resultIds (pages 1) = ["2"] ∧ (pages 2).length = 0 ∧
        ∀ n ∈ near, ∃! i, NodeView.ofNode n ∈ (Subgraph.ofRows (pages i)).nodes := by
  have hlimit : 1 ≤ 2 := by decide
  obtain ⟨hfetch, hexpand⟩ := pages_partition MemoryStore.built_sample hlimit
  refine ⟨MemoryStore.built_sample, hlimit, ?_, ?_⟩
  · obtain ⟨conditions, subjects, count, pages, hconditions, -, -, hpaged, -, honce, -⟩ :=
      hfetch {} .oneHop
    obtain rfl : ({} : Filter).compiled "n" "r" = conditions :=
      Except.ok.inj ((Filter.conditions_some {} "n" "r").symm.trans hconditions)
    exact ⟨_, subjects, count, pages, hpaged, hpaged.view_eq (by decide +kernel),
      hpaged.view_eq (by decide +kernel), hpaged.view_eq (by decide +kernel), honce⟩
  · obtain ⟨near, count, pages, -, -, hpaged, honce, -⟩ := hexpand [⟨2⟩] 1
    exact ⟨near, count, pages, hpaged, hpaged.view_eq (by decide +kernel),
      hpaged.view_eq (by decide +kernel), hpaged.view_eq (by decide +kernel), honce⟩

end Graph

end FacetedGraph
