import FacetedGraph.Proofs.Request
import FacetedGraph.Value.Json

/-!
# Plain values

What is no graph element and has none inside, nor a number that is not finite, is told apart by its
JSON form although that has no mark of types.

## Main definitions

* `Value.Plain`.

## Main statements

* `Value.ofJson_toJson` — plain values are read back, and so are fields of them.
-/

namespace FacetedGraph

namespace Value

inductive Plain : Value → Prop
  | null : Plain .null
  | bool (b : Bool) : Plain (.bool b)
  | int (n : Int64) : Plain (.int n)
  | float {x : Binary64} : x.isFinite = true → Plain (.float x)
  | string (s : String) : Plain (.string s)
  | list {items : List Value} : (∀ v ∈ items, Plain v) → Plain (.list items)
  | map {entries : List (String × Value)} : (∀ e ∈ entries, Plain e.2) → Plain (.map entries)

/-! ## Parts of values -/

theorem ofJsonItems_toJsonItems {items : List Value} (h : ∀ v ∈ items, ofJson v.toJson = v) :
    ofJsonItems (toJsonItems items) = items := by
  induction items with
  | nil => rfl
  | cons v rest ih =>
    obtain ⟨hv, hrest⟩ := List.forall_mem_cons.1 h
    rw [toJsonItems, ofJsonItems, hv, ih hrest]

theorem ofJsonFields_toJsonFields {entries : List (String × Value)}
    (h : ∀ e ∈ entries, ofJson e.2.toJson = e.2) :
    ofJsonFields (toJsonFields entries) = entries := by
  induction entries with
  | nil => rfl
  | cons e rest ih =>
    obtain ⟨he, hrest⟩ := List.forall_mem_cons.1 h
    rw [toJsonFields, ofJsonFields, he, ih hrest]

theorem names_toJsonFields (entries : List (String × Value)) :
    (toJsonFields entries).map Prod.fst = entries.map Prod.fst := by
  induction entries with
  | nil => rfl
  | cons e rest ih => rw [toJsonFields, List.map_cons, List.map_cons, ih]

theorem names_ofJsonFields (entries : List (String × Json)) :
    (ofJsonFields entries).map Prod.fst = entries.map Prod.fst := by
  induction entries with
  | nil => rfl
  | cons e rest ih => rw [ofJsonFields, List.map_cons, List.map_cons, ih]

/-! ## Reading back -/

theorem ofJson_int (n : Int64) : ofJson (.int n.toInt) = .int n := by
  have hread := Json.asInt64_toInt n
  rw [Json.asInt64] at hread
  split at hread
  · rename_i hfits
    rw [ofJson, if_pos hfits, Option.some.inj hread]
  · cases hread

theorem ofJson_toJson {v : Value} (h : v.Plain) : ofJson v.toJson = v := by
  induction h with
  | null | bool | string => rfl
  | int n => exact ofJson_int n
  | float hx =>
    rw [toJson, Json.ofReal, if_pos hx]
    rfl
  | list _ ih => rw [toJson, ofJson, ofJsonItems_toJsonItems ih]
  | map _ ih => rw [toJson, ofJson, ofJsonFields_toJsonFields ih]

end Value

end FacetedGraph
