import FacetedGraph.Proofs.Request

/-!
# Reading back what was written

A value that is put together from others is read back exactly when each of them is. The only
leaves that are not read back are numbers that JSON does not have.

## Main definitions

* `Filter.asWritten` — what the JSON form tells of a filter.

## Main statements

* `Json.asList_ofList_iff`, `Json.asFields_ofFields_iff` — lists and collections of fields.
* `Json.get?_ofList`, `Json.required_eq`, `Json.withDefault_optional` — an object given field by
  field.
* `Filter.ofJson_toJson`, `Filter.ofJson_toJson_iff` — a filter is read back without the bounds that
  are no finite numbers.
-/

namespace FacetedGraph

namespace Json

variable {α : Type} {encode : α → Json} {decode : Json → Option α}

/-! ## Leaves and collections -/

theorem mapM_map_eq_some {β : Type} {f : β → Option α} {g : α → β} {items : List α} :
    (items.map g).mapM f = some items ↔ ∀ a ∈ items, f (g a) = some a := by
  induction items with
  | nil => simp
  | cons a rest ih =>
    rw [List.map_cons, List.mapM_cons, List.forall_mem_cons, ← ih, read_eq_some]
    constructor
    · rintro ⟨b, hb, h⟩
      obtain ⟨bs, hbs, heq⟩ := read_eq_some.1 h
      obtain ⟨rfl, rfl⟩ := List.cons.inj (Option.some.inj heq)
      exact ⟨hb, hbs⟩
    · rintro ⟨ha, hrest⟩
      exact ⟨a, ha, read_eq_some.2 ⟨rest, hrest, rfl⟩⟩

theorem asList_ofList_iff {items : List α} :
    asList decode (ofList encode items) = some items ↔
      ∀ a ∈ items, decode (encode a) = some a :=
  mapM_map_eq_some

theorem asList_strings (texts : List String) : asList asString (strings texts) = some texts :=
  asList_ofList fun _ _ => rfl

theorem asFields_ofFields_iff {fields : Fields α} :
    asFields decode (ofFields encode fields) = some fields ↔
      ∀ e ∈ fields, decode (encode e.2) = some e.2 := by
  refine mapM_map_eq_some.trans (forall₂_congr fun e _ => ?_)
  cases decode (encode e.2) <;> simp [Prod.ext_iff]

theorem asReal_ofReal_iff {x : Binary64} :
    asReal (ofReal x) = some x ↔ x.isFinite = true := by
  refine ⟨fun h => ?_, asReal_ofReal⟩
  by_contra hx
  rw [ofReal, if_neg hx] at h
  cases h

/-! ## Objects -/

section Objects

variable {fields : Fields Json} {name : String} {j : Json}

theorem lookup_singleton (fields : Fields Json) (name : String) :
    lookup fields [name] = some (Fields.get? fields name) := by
  rw [lookup, List.filterMap_cons]
  cases Fields.get? fields name <;> rfl

theorem required_eq (h : Fields.get? fields name = some j) (f : Json → Option α) :
    required fields [name] f = f j := by
  rw [required, lookup_singleton, h]
  rfl

theorem withDefault_eq (h : Fields.get? fields name = some j) (absent : α)
    (f : Json → Option α) : withDefault fields [name] absent f = f j := by
  rw [withDefault, lookup_singleton, h]
  rfl

theorem withDefault_eq_absent (h : Fields.get? fields name = none) (absent : α)
    (f : Json → Option α) : withDefault fields [name] absent f = some absent := by
  rw [withDefault, lookup_singleton, h]
  rfl

theorem get?_ofList (entries : List (String × Json)) (hnames : (entries.map Prod.fst).Nodup) :
    ∀ p ∈ entries, Fields.get? (Fields.ofList entries) p.1 = some p.2 :=
  fun _ hp => Fields.get?_ofList_of_mem hnames hp

/-- An optional field that is left out without a value is read back where its value is. -/
theorem withDefault_optional {o : Option α}
    (h : Fields.get? fields name = o.map encode) (hnull : ∀ a, encode a ≠ .null) :
    withDefault fields [name] none (nullable decode) = some o ↔
      ∀ a, o = some a → decode (encode a) = some a := by
  cases o with
  | none => simp [withDefault_eq_absent h]
  | some a =>
    have hread : nullable decode (encode a) = (decode (encode a)).map some := by
      cases henc : encode a with
      | null => exact absurd henc (hnull a)
      | _ => rfl
    rw [withDefault_eq h, hread]
    simp

end Objects

end Json

/-! ## Filters -/

namespace NumericRange

/-- The range as its JSON form tells it: a bound that is no finite number is not there. -/
def asWritten (r : NumericRange Binary64) : NumericRange Binary64 where
  min := r.min.filter Binary64.isFinite
  max := r.max.filter Binary64.isFinite

theorem asWritten_eq_self {r : NumericRange Binary64} :
    r.asWritten = r ↔
      (∀ x, r.min = some x → x.isFinite) ∧ ∀ x, r.max = some x → x.isFinite := by
  have hbound (o : Option Binary64) :
      o.filter Binary64.isFinite = o ↔ ∀ x, o = some x → x.isFinite := by
    cases o <;> simp [Option.filter]
  rw [← hbound, ← hbound, asWritten, NumericRange.mk.injEq]

theorem toJson_asWritten (r : NumericRange Binary64) :
    r.asWritten.toJson Json.ofReal = r.toJson Json.ofReal := by
  have hbound (o : Option Binary64) :
      Json.ofOption Json.ofReal (o.filter Binary64.isFinite) = Json.ofOption Json.ofReal o := by
    cases o with
    | none => rfl
    | some x => cases h : x.isFinite <;> simp [Option.filter, h, Json.ofOption, Json.ofReal]
  rw [toJson, asWritten, hbound, hbound, toJson]

end NumericRange

namespace Filter

variable (f : Filter)

/-- The filter as its JSON form tells it. -/
def asWritten : Filter := { f with ratingRange := f.ratingRange.map NumericRange.asWritten }

theorem asWritten_eq_self : f.asWritten = f ↔ f.Finite := by
  have hrange : f.asWritten = f ↔ f.ratingRange.map NumericRange.asWritten = f.ratingRange :=
    ⟨congrArg Filter.ratingRange, fun h => by rw [asWritten, h]⟩
  rw [hrange, Finite]
  cases f.ratingRange with
  | none => simp
  | some r => simp [NumericRange.asWritten_eq_self]

theorem finite_asWritten : f.asWritten.Finite := by
  rintro _ hr
  obtain ⟨r, -, rfl⟩ := Option.map_eq_some_iff.1 hr
  exact ⟨fun x hx => (Option.filter_eq_some_iff.1 hx).2,
    fun x hx => (Option.filter_eq_some_iff.1 hx).2⟩

theorem toJson_asWritten : f.asWritten.toJson = f.toJson := by
  have hrange : Json.ofOption ratingRangeToJson (f.ratingRange.map NumericRange.asWritten) =
      Json.ofOption ratingRangeToJson f.ratingRange := by
    cases f.ratingRange with
    | none => rfl
    | some r => exact r.toJson_asWritten
  rw [toJson, toJson, asWritten, hrange]

/-- A filter is always read back, but for bounds that are no finite numbers. -/
theorem ofJson_toJson : ofJson f.toJson = some f.asWritten := by
  rw [← f.toJson_asWritten]
  exact ofJson_eq f.finite_asWritten spelled_toJson

theorem ofJson_toJson_iff : ofJson f.toJson = some f ↔ f.Finite := by
  rw [ofJson_toJson, Option.some.injEq, asWritten_eq_self]

end Filter

end FacetedGraph
