/-!
# Blank characters

The characters with the Unicode property White_Space, and the removal of them from the ends of a
text.

## Main definitions

* `isBlank` — whether a character is blank.
* `trimBlank` — a text without the blanks at either end.
-/

namespace FacetedGraph

/-- The characters with the Unicode property White_Space. -/
def isBlank (c : Char) : Bool :=
  let n := c.toNat
  (0x9 ≤ n && n ≤ 0xd) || n == 0x20 || n == 0x85 || n == 0xa0 || n == 0x1680 ||
    (0x2000 ≤ n && n ≤ 0x200a) || n == 0x2028 || n == 0x2029 || n == 0x202f ||
    n == 0x205f || n == 0x3000

/-- A text without the blanks at its start. -/
def dropBlank (cs : List Char) : List Char := cs.dropWhile isBlank

/-- A text without the blanks at either end. -/
def trimBlank (cs : List Char) : List Char :=
  (dropBlank (dropBlank cs).reverse).reverse

/-- `trimBlank` on strings. -/
def trimmed (s : String) : String := String.ofList (trimBlank s.toList)

end FacetedGraph
