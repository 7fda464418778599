import FacetedGraph.Filter.Request
import FacetedGraph.Proofs.Fallible
import FacetedGraph.Proofs.Json.Edits

/-!
# JSON form of requests

A request is read back from its JSON form, whatever names are used for its fields, in whatever
order they come and whichever of them are left out because they say nothing new.

## Main definitions

* `Filter.entries`, `Filter.rules` — the fields of a filter, and how each may be written.
* `NumericRange.Spelled`, `Filter.Spelled`, `FetchRequest.Spelled` — the ways to write a range, a
  filter and a request.

## Main statements

* `Filter.ofJson_eq`, `FetchRequest.ofJson_eq` — all of them are read back.
* `Filter.ofJson_eq_none` — a filter with a field under two names is refused.
* `FetchRequest.json_roundtrip`.
-/

namespace FacetedGraph

open Json

/-! ## Values of fields -/

namespace Json

section Values

variable {α : Type} {encode : α → Json} {decode : Json → Option α}

/-- A reader that goes on after a first step gives something where both steps do. -/
theorem read_eq_some {β : Type} {o : Option α} {rest : α → Option β} {b : β} :
    (o >>= rest) = some b ↔ ∃ a, o = some a ∧ rest a = some b :=
  Option.bind_eq_some_iff

/-- What is not there is told from what is, as long as `null` is no value by itself. -/
theorem nullable_ofOption {o : Option α} (hnull : decode .null = none)
    (ho : ∀ a, o = some a → decode (encode a) = some a) :
    nullable decode (ofOption encode o) = some o := by
  cases o with
  | none => rfl
  | some a =>
    have ha := ho a rfl
    cases henc : encode a with
    | null =>
      rw [henc, hnull] at ha
      cases ha
    | _ =>
      rw [henc] at ha
      simp [ofOption, henc, nullable, ha]

theorem asList_ofList {items : List α} (h : ∀ a ∈ items, decode (encode a) = some a) :
    asList decode (ofList encode items) = some items :=
  mapM_map_eq_pure h

theorem Found.texts_eq {name : String} {aliases items : List String} {fields : Fields Json}
    (h : Found (.texts name aliases) (.strings items) fields) :
    Filter.textsOfJson fields (name :: aliases) = some items :=
  h.withDefault_eq (asList_ofList fun _ _ => rfl) rfl

theorem Found.optional_eq {name : String} {o : Option α} {fields : Fields Json} {j : Json}
    (h : Found (.optional name) j fields) (hj : nullable decode j = some o) :
    withDefault fields [name] none (nullable decode) = some o :=
  h.withDefault_eq hj rfl

theorem asReal_ofReal {x : Binary64} (h : x.isFinite) : asReal (ofReal x) = some x := by
  rw [ofReal, if_pos h]
  rfl

theorem asInt64_toInt (n : Int64) : asInt64 (.int n.toInt) = some n := by
  have hfits : fitsInt64 n.toInt := by
    have hlower := n.le_toInt
    have hupper := n.toInt_lt
    simp only [fitsInt64, Bool.and_eq_true, decide_eq_true_eq]
    omega
  rw [asInt64, if_pos hfits, Int64.ofInt_toInt]

theorem asNat_ofNat {n : Nat} (h : n ≤ maxIdentity) : asNat (ofNat n) = some n := by
  have hfits : 0 ≤ (n : Int) ∧ (n : Int) ≤ maxIdentity := by omega
  simp [asNat, ofNat, hfits]

/-- The ways to write a value that may be absent. -/
def SpelledOption (spelled : α → Json → Prop) : Option α → Json → Prop
  | none, j => j = .null
  | some a, j => spelled a j

theorem spelledOption_ofOption {spelled : α → Json → Prop} (h : ∀ a, spelled a (encode a))
    (o : Option α) : SpelledOption spelled o (ofOption encode o) := by
  cases o with
  | none => rfl
  | some a => exact h a

end Values

end Json

theorem EntityKind.ofJson_toJson (k : EntityKind) : ofJson k.toJson = some k := by
  cases k <;> rfl

theorem Neighborhood.ofJson_toJson (n : Neighborhood) : ofJson n.toJson = some n := by
  cases n <;> rfl

/-! ## Ranges -/

namespace NumericRange

variable {α : Type} {encode : α → Json} {decode : Json → Option α} {r : NumericRange α}

def entries (encode : α → Json) (r : NumericRange α) : List (FieldRule × Json) :=
  [(.optional "min", .ofOption encode r.min), (.optional "max", .ofOption encode r.max)]

/-- The ways to write a range. -/
def Spelled (encode : α → Json) (r : NumericRange α) : Json → Prop := Rewritten (r.entries encode)

theorem names_nodup : (((r.entries encode).map Prod.fst).flatMap FieldRule.names).Nodup := by
  simp [entries, FieldRule.optional, FieldRule.names]

theorem spelled_toJson : r.Spelled encode (r.toJson encode) := rewritten_record names_nodup

/-- The bounds of a range are read back. -/
structure Decodes (encode : α → Json) (decode : Json → Option α) (r : NumericRange α) : Prop where
  min : ∀ a, r.min = some a → decode (encode a) = some a
  max : ∀ a, r.max = some a → decode (encode a) = some a

theorem ofJson_eq {j : Json} (hnull : decode .null = none) (hr : r.Decodes encode decode)
    (h : r.Spelled encode j) : ofJson decode j = some r := by
  obtain ⟨fields, hedits, rfl⟩ := h
  have hfound := Rewritten.found names_nodup ⟨fields, hedits, rfl⟩
  simp only [entries, List.forall_mem_cons] at hfound
  obtain ⟨hmin, hmax, -⟩ := hfound
  simp only [ofJson, asObject, hmin.optional_eq (nullable_ofOption hnull hr.min),
    hmax.optional_eq (nullable_ofOption hnull hr.max), Option.bind_eq_bind, Option.bind_some,
    pure]

theorem nullable_eq {o : Option (NumericRange α)} {j : Json} (hnull : decode .null = none)
    (ho : ∀ r, o = some r → r.Decodes encode decode) (h : SpelledOption (Spelled encode) o j) :
    nullable (ofJson decode) j = some o := by
  cases o with
  | none =>
    cases h
    rfl
  | some r =>
    have hr := ofJson_eq hnull (ho r rfl) h
    obtain ⟨fields, -, rfl⟩ := h
    rw [nullable, hr]
    · rfl
    · exact Json.noConfusion

end NumericRange

/-! ## Filters -/

namespace Filter

variable {f : Filter} {rating order : Json}

/-- The fields of a filter under their own names, and how each may be written. -/
def entries (f : Filter) (rating order : Json) : List (FieldRule × Json) :=
  [(.texts "regions" [], .strings f.regions),
    (.texts "sales_regions" [], .strings f.salesRegions),
    (.texts "channels" [], .strings f.channels),
    (.texts "entity_types" ["node_types"], .ofList EntityKind.toJson f.entityKinds),
    (.texts "companies" ["company"], .strings f.companies),
    (.texts "consultants" ["consultant"], .strings f.consultants),
    (.texts "products" ["product"], .strings f.products),
    (.texts "field_consultants" ["field_consultant"], .strings f.fieldConsultants),
    (.texts "asset_classes" [], .strings f.assetClasses),
    (.texts "mandate_statuses" ["mandate_status"], .strings f.mandateStatuses),
    (.texts "privacy_levels" [], .strings f.privacyLevels),
    (.texts "influence_levels" ["level_of_influence"], .strings f.influenceLevels),
    (.texts "pca" [], .strings f.pca),
    (.texts "aca" [], .strings f.aca),
    (.optional "rating_range", rating),
    (.texts "rating_changes" ["rating_change"], .strings f.ratingChanges),
    (.texts "rank_groups" ["rank_group"], .strings f.rankGroups),
    (.texts "rank_values" ["rank_value"], .strings f.rankValues),
    (.optional "rank_order_range", order)]

def rules : List FieldRule := (({} : Filter).entries .null .null).map Prod.fst

theorem names_nodup : (rules.flatMap FieldRule.names).Nodup := by decide +kernel

def encodeRank (n : Int64) : Json := .int n.toInt

/-- The ways to write a filter. -/
def Spelled (f : Filter) (j : Json) : Prop :=
  ∃ rating order, SpelledOption (NumericRange.Spelled Json.ofReal) f.ratingRange rating ∧
    SpelledOption (NumericRange.Spelled encodeRank) f.rankOrderRange order ∧
    Rewritten (f.entries rating order) j

/-- What is not a finite number has no JSON form. -/
def Finite (f : Filter) : Prop :=
  ∀ r, f.ratingRange = some r →
    (∀ x, r.min = some x → x.isFinite) ∧ ∀ x, r.max = some x → x.isFinite

theorem spelled_toJson : f.Spelled f.toJson :=
  ⟨_, _, spelledOption_ofOption (fun _ => NumericRange.spelled_toJson) f.ratingRange,
    spelledOption_ofOption (fun _ => NumericRange.spelled_toJson) f.rankOrderRange,
    rewritten_record names_nodup⟩

theorem ofJson_eq {j : Json} (hf : f.Finite) (h : f.Spelled j) : ofJson j = some f := by
  obtain ⟨rating, order, hrating, horder, fields, hedits, rfl⟩ := h
  have hfound : ∀ e ∈ f.entries rating order, Found e.1 e.2 fields :=
    Rewritten.found names_nodup ⟨fields, hedits, rfl⟩
  simp only [entries, List.forall_mem_cons] at hfound
  obtain ⟨hregions, hsalesRegions, hchannels, hkinds, hcompanies, hconsultants, hproducts,
    hfieldConsultants, hassetClasses, hmandateStatuses, hprivacyLevels, hinfluenceLevels, hpca,
    haca, hratingRange, hratingChanges, hrankGroups, hrankValues, hrankOrderRange, -⟩ := hfound
  have hkinds : withDefault fields ["entity_types", "node_types"] [] (asList EntityKind.ofJson) =
      some f.entityKinds :=
    hkinds.withDefault_eq (asList_ofList fun k _ => k.ofJson_toJson) rfl
  have hreal : nullable (NumericRange.ofJson asReal) rating = some f.ratingRange :=
    NumericRange.nullable_eq rfl (fun r hr => ⟨fun x hx => asReal_ofReal ((hf r hr).1 x hx),
      fun x hx => asReal_ofReal ((hf r hr).2 x hx)⟩) hrating
  have hint : nullable (NumericRange.ofJson asInt64) order = some f.rankOrderRange :=
    NumericRange.nullable_eq rfl (fun r _ => ⟨fun n _ => asInt64_toInt n,
      fun n _ => asInt64_toInt n⟩) horder
  simp only [ofJson, asObject, ↓read_eq_some, hregions.texts_eq, hsalesRegions.texts_eq,
    hchannels.texts_eq, hkinds, hcompanies.texts_eq, hconsultants.texts_eq, hproducts.texts_eq,
    hfieldConsultants.texts_eq, hassetClasses.texts_eq, hmandateStatuses.texts_eq,
    hprivacyLevels.texts_eq, hinfluenceLevels.texts_eq, hpca.texts_eq, haca.texts_eq,
    hratingRange.optional_eq hreal, hratingChanges.texts_eq, hrankGroups.texts_eq,
    hrankValues.texts_eq, hrankOrderRange.optional_eq hint, Option.some.injEq, exists_eq_left',
    pure]

/-- Every field is looked up, and one that is refused is enough for the filter to be. -/
theorem ofJson_eq_none_of_lookup {rule : FieldRule} {fields : Fields Json} (hrule : rule ∈ rules)
    (hlookup : lookup fields rule.names = none) : ofJson (.object fields) = none := by
  refine Option.eq_none_iff_forall_ne_some.2 fun f hread => ?_
  simp only [ofJson, asObject, textsOfJson, withDefault, ↓read_eq_some, Option.some.injEq,
    exists_eq_left'] at hread
  simp only [rules, entries, List.map_cons, List.map_nil, List.mem_cons, List.not_mem_nil,
    or_false] at hrule
  rcases hrule with rfl | rfl | rfl | rfl | rfl | rfl | rfl | rfl | rfl | rfl | rfl | rfl | rfl |
    rfl | rfl | rfl | rfl | rfl | rfl <;>
  · simp only [FieldRule.texts, FieldRule.optional, FieldRule.names] at hlookup
    simp only [hlookup, Option.bind_none, reduceCtorEq, false_and, and_false, exists_false] at hread

/-- A field under its name and another one at once is refused. -/
theorem ofJson_eq_none {rule : FieldRule} {other : String} {fields : Fields Json}
    (hrule : rule ∈ rules) (hother : other ∈ rule.aliases) (hname : rule.name ∈ fields.names)
    (hother' : other ∈ fields.names) : ofJson (.object fields) = none := by
  have hne : rule.name ≠ other := by
    have hnames : rule.names.Nodup := (List.nodup_flatMap.1 names_nodup).1 rule hrule
    rintro rfl
    exact (List.nodup_cons.1 hnames).1 hother
  exact ofJson_eq_none_of_lookup hrule
    (lookup_eq_none List.mem_cons_self (List.mem_cons_of_mem _ hother) hne hname hother')

end Filter

/-! ## Requests -/

namespace FetchRequest

variable {q : FetchRequest} {filter : Json}

/-- The fields of a request, and how each may be written. -/
def entries (q : FetchRequest) (filter : Json) : List (FieldRule × Json) :=
  [(⟨"filters", [], ({} : Filter).toJson⟩, filter),
    (.optional "limit", .ofOption Json.ofNat q.limit),
    (.optional "offset", .ofOption Json.ofNat q.offset),
    (⟨"neighborhood", [], Neighborhood.subject.toJson⟩, q.neighborhood.toJson)]

theorem names_nodup : (((q.entries filter).map Prod.fst).flatMap FieldRule.names).Nodup := by
  simp [entries, FieldRule.optional, FieldRule.names]

/-- The ways to write a request. -/
def Spelled (q : FetchRequest) (j : Json) : Prop :=
  ∃ filter, q.filter.Spelled filter ∧ Rewritten (q.entries filter) j

theorem spelled_toJson : q.Spelled q.toJson :=
  ⟨_, Filter.spelled_toJson, rewritten_record names_nodup⟩

/-- The bounds of ratings are finite, and the page is one that numbers of 64 bits can tell. -/
structure Encodable (q : FetchRequest) : Prop where
  finite : q.filter.Finite
  limit_le : ∀ n, q.limit = some n → n ≤ maxIdentity
  offset_le : ∀ n, q.offset = some n → n ≤ maxIdentity

theorem ofJson_eq {j : Json} (hq : q.Encodable) (h : q.Spelled j) : ofJson j = some q := by
  obtain ⟨filter, hfilter, fields, hedits, rfl⟩ := h
  have hfound : ∀ e ∈ q.entries filter, Found e.1 e.2 fields :=
    Rewritten.found names_nodup ⟨fields, hedits, rfl⟩
  simp only [entries, List.forall_mem_cons] at hfound
  obtain ⟨hfilters, hlimit, hoffset, hneighborhood, -⟩ := hfound
  have hdefault : Filter.ofJson ({} : Filter).toJson = some {} :=
    Filter.ofJson_eq (fun _ hr => by cases hr) Filter.spelled_toJson
  have hfilters : withDefault fields ["filters"] {} Filter.ofJson = some q.filter :=
    hfilters.withDefault_eq (Filter.ofJson_eq hq.finite hfilter) hdefault
  have hneighborhood :
      withDefault fields ["neighborhood"] .subject Neighborhood.ofJson = some q.neighborhood :=
    hneighborhood.withDefault_eq q.neighborhood.ofJson_toJson rfl
  simp only [ofJson, asObject, hfilters, hneighborhood,
    hlimit.optional_eq (nullable_ofOption rfl fun n hn => asNat_ofNat (hq.limit_le n hn)),
    hoffset.optional_eq (nullable_ofOption rfl fun n hn => asNat_ofNat (hq.offset_le n hn)),
    Option.bind_eq_bind, Option.bind_some, pure]

/-- A request is read back from its JSON form and from all other ways to write it, and so is a
filter. A filter with a field under its name and another one at once is refused. -/
theorem json_roundtrip (hq : q.Encodable) :
    ofJson q.toJson = some q ∧ Filter.ofJson q.filter.toJson = some q.filter ∧
      q.Spelled q.toJson ∧ q.filter.Spelled q.filter.toJson ∧
      (∀ j, q.Spelled j → ofJson j = some q) ∧
      (∀ j, q.filter.Spelled j → Filter.ofJson j = some q.filter) ∧
      ∀ rule ∈ Filter.rules, ∀ other ∈ rule.aliases, ∀ fields : Fields Json,
        rule.name ∈ fields.names → other ∈ fields.names → Filter.ofJson (.object fields) = none :=
  ⟨ofJson_eq hq spelled_toJson, Filter.ofJson_eq hq.finite Filter.spelled_toJson, spelled_toJson,
    Filter.spelled_toJson, fun _ => ofJson_eq hq, fun _ => Filter.ofJson_eq hq.finite,
    fun _ hrule _ hother _ => Filter.ofJson_eq_none hrule hother⟩

/-- The products `7` that are rated at least three. -/
def sevens : FetchRequest where
  filter := { products := ["7"], ratingRange := some { min := some (.ofInt 3) } }
  offset := some 20

/-- Names for the fields that say something, another one for the list of products. -/
def fewNames (rule : FieldRule) : Option String :=
  if rule.name = "products" then some "product"
  else if rule.name ∈ ["filters", "offset", "rating_range", "min"] then some rule.name
  else none

def shortRange : Json := .object [("min", .ofReal (.ofInt 3))]

def shortFilter : Json := .object [("product", .strings ["7"]), ("rating_range", shortRange)]

/-- The request in few words. -/
def shortSevens : Json := .object [("filters", shortFilter), ("offset", .ofNat 20)]

theorem spelled_shortSevens : sevens.Spelled shortSevens := by
  have hrange : NumericRange.Spelled Json.ofReal { min := some (.ofInt 3) } shortRange := by
    have hfields : choosing fewNames (NumericRange.entries Json.ofReal { min := some (.ofInt 3) }) =
        [("min", .ofReal (.ofInt 3))] := by
      simp [choosing, NumericRange.entries, fewNames, FieldRule.optional, ofOption]
    rw [shortRange, ← hfields]
    exact rewritten_choosing fewNames
      (by simp [NumericRange.entries, fewNames, FieldRule.optional, FieldRule.names])
      (by simp [NumericRange.entries, fewNames, FieldRule.optional, ofOption])
  have hfilter : sevens.filter.Spelled shortFilter :=
    ⟨shortRange, .null, hrange, rfl, rewritten_choosing fewNames
      (by simp [Filter.entries, fewNames, FieldRule.optional, FieldRule.texts, FieldRule.names])
      (by simp [Filter.entries, fewNames, FieldRule.optional, FieldRule.texts, sevens, strings,
        ofList])⟩
  exact ⟨shortFilter, hfilter, rewritten_choosing fewNames
    (by simp [entries, fewNames, FieldRule.optional, FieldRule.names])
    (by simp [entries, fewNames, FieldRule.optional, sevens, ofOption])⟩

theorem json_roundtrip_sevens :
    sevens.Encodable ∧ ofJson sevens.toJson = some sevens ∧ ofJson shortSevens = some sevens ∧
      Filter.ofJson (.object [("product", .strings ["7"]), ("products", .strings [])]) = none := by
  have hq : sevens.Encodable := by
    constructor
    · rintro _ ⟨⟩
      refine ⟨?_, fun _ hmax => by cases hmax⟩
      rintro _ ⟨⟩
      decide +kernel
    · exact fun _ hlimit => by cases hlimit
    · rintro _ ⟨⟩
      decide
  obtain ⟨hself, -, -, -, hall, -, htwice⟩ := json_roundtrip hq
  exact ⟨hq, hself, hall _ spelled_shortSevens, htwice (.texts "products" ["product"])
    (by simp [Filter.rules, Filter.entries]) "product" (by simp [FieldRule.texts]) _
    (by simp [Fields.names, FieldRule.texts]) (by simp [Fields.names])⟩

end FetchRequest

end FacetedGraph
