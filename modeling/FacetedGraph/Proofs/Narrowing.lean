import FacetedGraph.Proofs.Options

/-!
# Narrowing

A selection that constrains more leaves less: its options are among those of the selection that it
refines. Rating and rank dimensions make no difference to options.

## Main definitions

* `FacetOptions.Within` — options that are among others, facet by facet.

## Main statements

* `Graph.Sound.optionsOf_within` — a refined selection reveals less.
* `Engine.options_narrow` — the options of a refined selection.
-/

namespace FacetedGraph

/-! ## Options -/

/-- Options that are all among others. -/
structure FacetOptions.Within (o o' : FacetOptions) : Prop where
  regions : o.regions ⊆ o'.regions
  texts : ∀ facet, o.texts facet ⊆ o'.texts facet
  entities : ∀ facet, o.entities facet ⊆ o'.entities facet

namespace Graph

variable {g : Graph} {a b : Filter}

theorem InScope.of_refines (h : b.Refines a) {n : Node} (hn : g.InScope b n) : g.InScope a n := by
  rcases hn with hb | ⟨m, hm, hb, hshared⟩
  · exact .inl (h.admits hb)
  · exact .inr ⟨m, hm, h.admits hb, hshared⟩

theorem Reveals.of_refines (h : b.Refines a) {source : FacetSource} {v : Value}
    (hv : g.Reveals b source v) : g.Reveals a source v := by
  cases source with
  | property d =>
    obtain ⟨n, hn, hscope, hstored⟩ := hv
    exact ⟨n, hn, hscope.of_refines h, hstored⟩
  | rating key =>
    obtain ⟨r, hr, htype, ⟨n, hn, hb, ht⟩, hstored⟩ := hv
    exact ⟨r, hr, htype, ⟨n, hn, h.admits hb, ht⟩, hstored⟩
  | entity kind => exact hv

theorem Sound.entitiesFor_subset (hsound : g.Sound) (h : b.Refines a) (source : FacetSource) :
    g.entitiesFor b source ⊆ g.entitiesFor a source := by
  cases source with
  | entity kind =>
    intro n hn
    obtain ⟨hstored, hscope, hlabel⟩ := hsound.mem_entitiesFor.1 hn
    exact hsound.mem_entitiesFor.2 ⟨hstored, hscope.of_refines h, hlabel⟩
  | _ => exact List.Subset.refl _

theorem Sound.optionsOf_within (hsound : g.Sound) (h : b.Refines a) :
    (g.optionsOf b).Within (g.optionsOf a) where
  regions := List.Subset.refl _
  texts facet text htext := by
    obtain ⟨hne, v, hv, hshows⟩ := hsound.mem_texts_optionsOf.1 htext
    exact hsound.mem_texts_optionsOf.2 ⟨hne, v, hv.of_refines h, hshows⟩
  entities facet c hc := by
    obtain ⟨n, hn, hchoice⟩ := mem_entities_optionsOf.1 hc
    exact mem_entities_optionsOf.2 ⟨n, hsound.entitiesFor_subset h _ hn, hchoice⟩

end Graph

/-! ## Calls -/

namespace Engine

variable {s : MemoryStore}

/-- The options of a refined selection are among those of the selection, and these among the
options of the whole store. Rating and rank dimensions change nothing. -/
theorem options_narrow (hs : s.Healthy) (hb : s.graph.Built) (e : Engine) {a b : Filter}
    (h : b.Refines a) :
    ∃ all wide narrow : FacetOptions,
      (e.allOptions).run s = (.ok all, s) ∧
      (e.options a).run s = (.ok wide, s) ∧
      (e.options b).run s = (.ok narrow, s) ∧
      narrow.Within wide ∧ wide.Within all ∧
      ∀ ratingRange ratingChanges rankGroups rankValues rankOrderRange,
        (e.options { a with
          ratingRange, ratingChanges, rankGroups, rankValues, rankOrderRange }).run s =
          (.ok wide, s) := by
  have hsound := hb.sound
  refine ⟨s.graph.optionsOf {}, s.graph.optionsOf a, s.graph.optionsOf b, options_ok hs e {},
    options_ok hs e a, options_ok hs e b, hsound.optionsOf_within h,
    hsound.optionsOf_within a.refines_empty, ?_⟩
  intro ratingRange ratingChanges rankGroups rankValues rankOrderRange
  -- Only the node dimensions reach the queries, so the two calls are the same program.
  change (e.options a).run s = _
  exact options_ok hs e a

/-- Among the products of the sample, those about bonds have one rank. -/
theorem options_narrow_sample :
    MemoryStore.sample.Healthy ∧ MemoryStore.sample.graph.Built ∧
      Filter.Refines { assetClasses := ["Bond"], entityKinds := [.product] }
        { assetClasses := ["Equity", "Bond"] } ∧
      ∃ wide narrow : FacetOptions,
        (options {} { assetClasses := ["Equity", "Bond"] }).run MemoryStore.sample =
          (.ok wide, MemoryStore.sample) ∧
        (options {} { assetClasses := ["Bond"], entityKinds := [.product] }).run
          MemoryStore.sample = (.ok narrow, MemoryStore.sample) ∧
        narrow.Within wide ∧ wide.values? .rankValues = some ["3.5", "4"] ∧
        narrow.values? .rankValues = some ["4"] := by
  have hrefines : Filter.Refines { assetClasses := ["Bond"], entityKinds := [.product] }
      { assetClasses := ["Equity", "Bond"] } :=
    { kinds := .inl rfl
      texts := by constructor <;> simp [Narrower] }
  refine ⟨MemoryStore.healthy_sample, MemoryStore.built_sample, hrefines, ?_⟩
  obtain ⟨-, wide, narrow, -, hwide, hnarrow, hwithin, -⟩ := options_narrow
    MemoryStore.healthy_sample MemoryStore.built_sample {} hrefines
  refine ⟨wide, narrow, hwide, hnarrow, hwithin, ?_, ?_⟩
  · rw [optionsOf_of_run MemoryStore.healthy_sample hwide]
    exact Graph.values?_of_offer rfl (by decide +kernel)
  · rw [optionsOf_of_run MemoryStore.healthy_sample hnarrow]
    exact Graph.values?_of_offer rfl (by decide +kernel)

end Engine

end FacetedGraph
