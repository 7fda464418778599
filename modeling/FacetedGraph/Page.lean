import FacetedGraph.Json.Decode

/-!
# Pages

A page is a window on an ordered answer: so many entries are passed over and so many taken.

## Main definitions

* `Page.ofRequest` — the page of a request, its limit brought into `1..=10000`.
* `Page.window` — the entries of a list that are on the page.
-/

namespace FacetedGraph

structure Page where
  limit : Nat
  offset : Nat
  deriving DecidableEq

namespace Page

def defaultLimit : Nat := 1000

def maxLimit : Nat := 10000

/-- The page of a request. A missing limit is `defaultLimit`, and every limit is brought into
`1..=maxLimit`. -/
def ofRequest (limit offset : Option Nat) : Page where
  limit := max 1 (min (limit.getD defaultLimit) maxLimit)
  offset := offset.getD 0

def default : Page := ofRequest none none

/-- The entries of a list that are on the page. -/
def window {α : Type} (page : Page) (items : List α) : List α :=
  (items.drop page.offset).take page.limit

theorem window_sublist {α : Type} (page : Page) (items : List α) :
    (page.window items).Sublist items :=
  (List.take_sublist _ _).trans (List.drop_sublist _ _)

/-- A page from the start that is long enough has every entry. -/
theorem window_eq_self {α : Type} {page : Page} {items : List α} (hoffset : page.offset = 0)
    (hlimit : items.length ≤ page.limit) : page.window items = items := by
  rw [window, hoffset, List.drop_zero, List.take_of_length_le hlimit]

theorem window_map {α β : Type} (page : Page) (items : List α) (f : α → β) :
    page.window (items.map f) = (page.window items).map f := by
  rw [window, window, List.map_take, List.map_drop]

/-! ## JSON form -/

def toJson (page : Page) : Json :=
  .record [("limit", .ofNat page.limit), ("offset", .ofNat page.offset)]

def ofJson (j : Json) : Option Page := do
  let fields ← j.asObject
  return {
    limit := ← Json.required fields ["limit"] Json.asNat
    offset := ← Json.required fields ["offset"] Json.asNat }

end Page

end FacetedGraph
