import FacetedGraph.Text.Numeral

/-!
# Durations

A duration is a number of milliseconds. Its text is in seconds from one second on, with the
fraction of a second that it has, and in milliseconds below; nothing at all is `0ns`.

## Main definitions

* `durationText` — the text of a duration.
-/

namespace FacetedGraph

/-- Digits without the zeros at their end. -/
def dropLastZeros (cs : List Char) : List Char :=
  (cs.reverse.dropWhile (· == '0')).reverse

/-- A fraction of a second given in milliseconds: a point and up to three digits. -/
def millisecondsFraction (ms : Nat) : List Char :=
  if ms = 0 then []
  else '.' :: dropLastZeros (List.replicate (3 - (numeral ms).length) '0' ++ numeral ms)

/-- The text of a duration in milliseconds. -/
def durationText (ms : Nat) : List Char :=
  if ms = 0 then "0ns".toList
  else if ms < 1000 then numeral ms ++ "ms".toList
  else numeral (ms / 1000) ++ millisecondsFraction (ms % 1000) ++ ['s']

end FacetedGraph
