import FacetedGraph.Facet.Basic
import FacetedGraph.Proofs.Filter.Meaning

/-!
# Choosing an option

The filter of a caller who takes one option of one facet and nothing else.

## Main definitions

* `Facet.choosing` — the filter with values for the dimension of a facet alone.

## Main statements

* `Facet.admits_choosing_property`, `Facet.admits_choosing_entity`,
  `Facet.admitsRelationship_choosing` — what such a filter admits.
-/

namespace FacetedGraph

theorem Relationship.isAmong_singleton {r : Relationship} {key text : String} :
    r.IsAmong key [text] ↔ r.get? key = some (.string text) := by
  simp [IsAmong]

namespace Facet

def choosing (values : List String) : Facet → Filter
  | salesRegions => { salesRegions := values }
  | channels => { channels := values }
  | assetClasses => { assetClasses := values }
  | mandateStatus => { mandateStatuses := values }
  | privacyLevels => { privacyLevels := values }
  | levelOfInfluence => { influenceLevels := values }
  | pcaOptions => { pca := values }
  | acaOptions => { aca := values }
  | ratingChanges => { ratingChanges := values }
  | rankGroups => { rankGroups := values }
  | rankValues => { rankValues := values }
  | consultants => { consultants := values }
  | companies => { companies := values }
  | products => { products := values }
  | fieldConsultants => { fieldConsultants := values }

variable (facet : Facet) (values : List String)

theorem entityKinds_choosing : (facet.choosing values).entityKinds = [] := by
  cases facet <;> rfl

theorem accepted_choosing (d : NodeDimension) :
    (facet.choosing values).accepted d = if facet.source = .property d then values else [] := by
  cases facet <;> cases d <;> rfl

theorem selected_choosing (k : EntityKind) :
    (facet.choosing values).selected k = if facet.source = .entity k then values else [] := by
  cases facet <;> cases k <;> rfl

variable {facet values} {text key : String} {n : Node} {r : Relationship}

theorem constrainsRelationships_choosing :
    (facet.choosing [text]).constrainsRelationships = true ↔ ∃ key, facet.source = .rating key := by
  cases facet <;> simp [choosing, Filter.constrainsRelationships, Filter.bounded, source]

theorem admits_choosing_property {d : NodeDimension} (h : facet.source = .property d) :
    (facet.choosing [text]).Admits n ↔
      ∃ key ∈ d.keys, ∃ v, n.get? key = some v ∧ v.Holds text := by
  have haccepted : (facet.choosing [text]).accepted d = [text] := by
    rw [accepted_choosing, if_pos h]
  constructor
  · intro hf
    have hproperty := (hf.properties d).resolve_left (by simp [haccepted])
    simpa [haccepted] using hproperty
  · rintro ⟨key, hkey, v, hv, hholds⟩
    refine Filter.admits_iff.2 ⟨.inl (entityKinds_choosing facet _), fun d' => ?_, fun k => .inl ?_⟩
    · by_cases heq : d = d'
      · subst heq
        exact .inr ⟨key, hkey, v, hv, text, by simp [haccepted], hholds⟩
      · exact .inl (by simp [accepted_choosing, h, heq])
    · simp [selected_choosing, h]

theorem admits_choosing_entity {kind : EntityKind} (h : facet.source = .entity kind) :
    (facet.choosing [text]).Admits n ↔
      kind.label ∈ n.labels ∧ (n.get? "name" = some (.string text) ∨ n.id.text = text) := by
  have hselected : (facet.choosing [text]).selected kind = [text] := by
    rw [selected_choosing, if_pos h]
  constructor
  · intro hf
    have hentity := (hf.entities kind).resolve_left (by simp [hselected])
    simpa [hselected] using hentity
  · rintro ⟨hlabel, hnamed⟩
    refine Filter.admits_iff.2 ⟨.inl (entityKinds_choosing facet _), fun d => .inl ?_, fun k => ?_⟩
    · simp [accepted_choosing, h]
    · by_cases heq : kind = k
      · subst heq
        exact .inr ⟨hlabel, text, by simp [hselected], hnamed⟩
      · exact .inl (by simp [selected_choosing, h, heq])

theorem admits_choosing_rating (h : facet.source = .rating key) :
    (facet.choosing [text]).Admits n :=
  Filter.admits_iff.2 ⟨.inl (entityKinds_choosing facet _),
    fun d => .inl (by simp [accepted_choosing, h]), fun k => .inl (by simp [selected_choosing, h])⟩

theorem admitsRelationship_choosing (h : facet.source = .rating key) :
    (facet.choosing [text]).AdmitsRelationship r ↔ r.get? key = some (.string text) := by
  constructor
  · intro hr
    cases facet with
    | ratingChanges => cases h; exact Relationship.isAmong_singleton.1 hr.change
    | rankGroups => cases h; exact Relationship.isAmong_singleton.1 hr.group
    | rankValues => cases h; exact Relationship.isAmong_singleton.1 hr.rank
    | _ => cases h
  · intro hr
    cases facet <;> cases h
    all_goals constructor <;> simp [choosing, Relationship.IsAmong, hr]

end Facet

end FacetedGraph
