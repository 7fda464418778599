import FacetedGraph.Facet.Options
import FacetedGraph.Graph.Offer
import FacetedGraph.Proofs.Distinct
import FacetedGraph.Proofs.Fallible
import Mathlib.Data.Prod.Lex
import Mathlib.Data.String.Basic

/-!
# Options from rows

The options are those of each facet whose query gave rows, and the facets that failed are noted
with their reasons. Only a failure that means that the store is gone leaves no options at all.
Texts come out in strictly ascending order, entities by name and identity.

## Main definitions

* `FacetOptions.complete` — the options of each facet, put together.
* `FacetOptions.settling`, `FacetOptions.firstOutage` — what is left where facets fail.

## Main statements

* `EntityChoice.before_iff` — the order of entities is that of names, then identities.
* `FacetOptions.foldlM_take`, `FacetOptions.resolve_eq` — options from rows that can be read, and
  from failures.
* `FacetOptions.pairwise_ascending`, `FacetOptions.pairwise_distinct_mergeSort`.
-/

namespace FacetedGraph

theorem Facet.mem_all (facet : Facet) : facet ∈ Facet.all := by
  cases facet <;> decide

/-! ## Order of entities -/

namespace EntityChoice

/-- What entities are sorted by. -/
def rank (c : EntityChoice) : String ×ₗ String := toLex (c.name, c.id)

theorem before_iff {a b : EntityChoice} : a.before b = true ↔ a.rank ≤ b.rank := by
  rw [before, rank, rank, Prod.Lex.toLex_le_toLex, Ordering.isLE_then_iff_or]
  simp only [compare_lt_iff_lt, compare_eq_iff_eq, Ordering.isLE_iff_ne_gt, compare_le_iff_le]

theorem rank_injective {a b : EntityChoice} (h : a.rank = b.rank) : a = b := by
  obtain ⟨_, _⟩ := a
  obtain ⟨_, _⟩ := b
  cases h
  rfl

theorem pairwise_mergeSort (choices : List EntityChoice) :
    (choices.mergeSort before).Pairwise fun a b => a.rank ≤ b.rank := by
  have htrans (a b c : EntityChoice) (hab : a.before b) (hbc : b.before c) : a.before c :=
    before_iff.2 ((before_iff.1 hab).trans (before_iff.1 hbc))
  have htotal (a b : EntityChoice) : (a.before b || b.before a) = true := by
    rw [Bool.or_eq_true, before_iff, before_iff]
    exact le_total _ _
  exact (List.pairwise_mergeSort htrans htotal choices).imp before_iff.1

end EntityChoice

namespace FacetOptions

/-! ## Options of one facet -/

theorem textsOfRows_ok (texts : List String) :
    textsOfRows (texts.map textRow) = .ok (ascending (texts.filter (· ≠ ""))) := by
  have hread : (texts.map textRow).mapM (fun row => row.read "value" Read.string) = .ok texts :=
    mapM_map_eq_pure fun _ _ => rfl
  rw [textsOfRows, hread]
  rfl

/-- The entity that a node is offered as. -/
def choiceOf (n : Node) : EntityChoice := ⟨n.id.text, (nameText n).getD n.id.text⟩

theorem ofRow_entityRow (n : Node) : EntityChoice.ofRow (entityRow n) = .ok (choiceOf n) := by
  have hname : (entityRow n).read "name" (Read.nullable Read.string) = .ok (nameText n) := by
    simp only [Row.read, Row.value?, entityRow, Fields.get?]
    cases nameText n <;> rfl
  rw [EntityChoice.ofRow, hname]
  rfl

theorem entitiesOfRows_ok (nodes : List Node) :
    entitiesOfRows (nodes.map entityRow) =
      .ok (distinct ((nodes.map choiceOf).mergeSort EntityChoice.before)) := by
  have hread : (nodes.map entityRow).mapM EntityChoice.ofRow = .ok (nodes.map choiceOf) := by
    rw [List.mapM_map]
    exact mapM_ok fun n _ => ofRow_entityRow n
  rw [entitiesOfRows, hread]
  rfl

/-! ## Options of all facets -/

/-- Options to which those of some facets are added. -/
def adding (o : FacetOptions) (facets : List Facet) (texts : Facet → List String)
    (entities : Facet → List EntityChoice) : FacetOptions :=
  { o with
    texts := fun e => if e ∈ facets ∧ e.offersEntities = false then texts e else o.texts e
    entities := fun e => if e ∈ facets ∧ e.offersEntities = true then entities e else o.entities e }

/-- Options of all facets and nothing else. -/
def complete (texts : Facet → List String) (entities : Facet → List EntityChoice) : FacetOptions :=
  start.adding Facet.all texts entities

section Complete

variable {texts : Facet → List String} {entities : Facet → List EntityChoice} {facet : Facet}

theorem texts_complete :
    (complete texts entities).texts facet = if facet.offersEntities then [] else texts facet := by
  simp only [complete, adding, start, Facet.mem_all, true_and]
  cases facet.offersEntities <;> rfl

theorem entities_complete :
    (complete texts entities).entities facet =
      if facet.offersEntities then entities facet else [] := by
  simp only [complete, adding, start, Facet.mem_all, true_and]

end Complete

/-- Options to which those of some facets are added, where a facet may have failed instead. -/
def settling (o : FacetOptions) (failure : Facet → Option Error) (facets : List Facet)
    (texts : Facet → List String) (entities : Facet → List EntityChoice) : FacetOptions :=
  { o.adding (facets.filter fun facet => (failure facet).isNone) texts entities with
    degraded := o.degraded ++
      facets.filterMap fun facet => (failure facet).map fun e => (facet, e.message) }

/-- The first failure that means that the store is gone. -/
def firstOutage (failure : Facet → Option Error) (facets : List Facet) : Option Error :=
  facets.findSome? fun facet => (failure facet).filter Error.isConnectivity

theorem settling_complete (texts : Facet → List String) (entities : Facet → List EntityChoice) :
    start.settling (fun _ => none) Facet.all texts entities = complete texts entities := by
  simp [settling, complete, adding, start]

section Resolve

variable {rows : Facet → List Row} {texts : Facet → List String}
  {entities : Facet → List EntityChoice} {failure : Facet → Option Error}

theorem settling_cons_of_some {o : FacetOptions} {facet : Facet} {e : Error}
    (h : failure facet = some e) (facets : List Facet) :
    (o.degrade facet e.message).settling failure facets texts entities =
      o.settling failure (facet :: facets) texts entities := by
  simp [settling, adding, degrade, h]

theorem settling_cons_of_none {o : FacetOptions} {facet : Facet} (h : failure facet = none)
    (facets : List Facet) :
    (o.adding [facet] texts entities).settling failure facets texts entities =
      o.settling failure (facet :: facets) texts entities := by
  simp only [settling, adding, h, List.filter_cons, List.filterMap_cons, Option.isNone_none,
    if_true, Option.map_none, List.mem_cons, List.not_mem_nil, or_false, mk.injEq, true_and,
    and_true]
  constructor <;> funext e <;> grind

variable
  (htexts : ∀ facet, facet.offersEntities = false → textsOfRows (rows facet) = .ok (texts facet))
  (hentities : ∀ facet, facet.offersEntities = true →
    entitiesOfRows (rows facet) = .ok (entities facet))

include htexts hentities

theorem take_ok (o : FacetOptions) (facet : Facet) :
    o.take facet (.ok (rows facet)) = .ok (o.adding [facet] texts entities) := by
  have hfill : o.fill facet (rows facet) = .ok (o.adding [facet] texts entities) := by
    cases hkind : facet.offersEntities with
    | true =>
      rw [fill, if_pos hkind, hentities facet hkind]
      simp only [Except.map, setEntities, adding, List.mem_singleton, Except.ok.injEq, mk.injEq,
        true_and, and_true]
      constructor <;> funext e <;> by_cases he : e = facet <;> simp [he, hkind]
    | false =>
      rw [fill, if_neg (by simp [hkind]), htexts facet hkind]
      simp only [Except.map, setTexts, adding, List.mem_singleton, Except.ok.injEq, mk.injEq,
        true_and, and_true]
      constructor <;> funext e <;> by_cases he : e = facet <;> simp [he, hkind]
  rw [take, hfill]

/-- A failed facet is noted and the others go on, up to the first that means that the store is
gone. -/
theorem foldlM_take (failure : Facet → Option Error) (o : FacetOptions) (facets : List Facet) :
    (facets.map fun facet => (facet, (failure facet).elim (.ok (rows facet)) .error)).foldlM
      (fun o p => o.take p.1 p.2) o =
      (firstOutage failure facets).elim (.ok (o.settling failure facets texts entities))
        .error := by
  induction facets generalizing o with
  | nil => simp [settling, adding, firstOutage, pure, Except.pure]
  | cons facet rest ih =>
    rw [List.map_cons, List.foldlM_cons]
    cases hfailure : failure facet with
    | none =>
      have houtage : firstOutage failure (facet :: rest) = firstOutage failure rest := by
        simp [firstOutage, hfailure]
      simp only [Option.elim_none]
      rw [take_ok htexts hentities, houtage, ← settling_cons_of_none hfailure]
      exact ih _
    | some e =>
      simp only [Option.elim_some]
      cases he : e.isConnectivity with
      | true =>
        have houtage : firstOutage failure (facet :: rest) = some e := by
          simp [firstOutage, hfailure, he]
        rw [houtage, take, if_pos he]
        rfl
      | false =>
        have houtage : firstOutage failure (facet :: rest) = firstOutage failure rest := by
          simp [firstOutage, hfailure, he]
        rw [houtage, take, if_neg (by simp [he]), ← settling_cons_of_some hfailure]
        exact ih _

theorem resolve_eq (failure : Facet → Option Error) :
    resolve (Facet.all.map fun facet => (facet, (failure facet).elim (.ok (rows facet)) .error)) =
      (firstOutage failure Facet.all).elim
        (.ok (start.settling failure Facet.all texts entities)) .error :=
  foldlM_take htexts hentities failure start Facet.all

end Resolve

/-! ## Order and entries -/

theorem values?_eq_some {o : FacetOptions} {facet : Facet} {texts : List String} :
    o.values? facet = some texts ↔ facet.offersEntities = false ∧ o.texts facet = texts := by
  cases hfacet : facet.offersEntities <;> simp [values?, hfacet]

theorem entities?_eq_some {o : FacetOptions} {facet : Facet} {choices : List EntityChoice} :
    o.entities? facet = some choices ↔
      facet.offersEntities = true ∧ o.entities facet = choices := by
  cases hfacet : facet.offersEntities <;> simp [entities?, hfacet]

theorem pairwise_ascending (texts : List String) : (ascending texts).Pairwise (· < ·) :=
  ascends_ascendingBy id texts

variable {choices : List EntityChoice}

theorem pairwise_distinct_mergeSort :
    (distinct (choices.mergeSort EntityChoice.before)).Pairwise fun a b => a.rank < b.rank := by
  have hsublist : (distinct (choices.mergeSort EntityChoice.before)).Sublist
      (choices.mergeSort EntityChoice.before) := freshBy_sublist []
  have hle := (EntityChoice.pairwise_mergeSort choices).sublist hsublist
  refine (hle.and (nodup_distinct _)).imp fun ⟨hle, hne⟩ => ?_
  exact lt_of_le_of_ne hle fun heq => hne (EntityChoice.rank_injective heq)

theorem distinct_mergeSort_perm (hnodup : choices.Nodup) :
    (distinct (choices.mergeSort EntityChoice.before)).Perm choices := by
  refine (List.perm_ext_iff_of_nodup (nodup_distinct _) hnodup).2 fun c => ?_
  rw [mem_distinct, List.mem_mergeSort]

end FacetOptions

end FacetedGraph
