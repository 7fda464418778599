import FacetedGraph.Text.Blank
import FacetedGraph.Text.Numeral

/-!
# Identities

Nodes and relationships are known by numbers of 64 bits. An identity is written in decimal; read,
it may stand between blanks and carry a plus sign.

## Main definitions

* `NodeId`, `RelationshipId`.
* `NodeId.text`, `RelationshipId.text` — the written form.
* `parseIdentity` — the number that a text names.
* `wrapInt64` — an identity where a signed number of 64 bits is called for.
-/

namespace FacetedGraph

structure NodeId where
  number : Nat
  deriving DecidableEq

structure RelationshipId where
  number : Nat
  deriving DecidableEq

/-- The decimal text of a number. -/
def numberText (n : Nat) : String := String.ofList (numeral n)

/-- The decimal text of a signed number. -/
def integerText (n : Int) : String :=
  if n < 0 then "-" ++ numberText n.natAbs else numberText n.natAbs

def NodeId.text (id : NodeId) : String := numberText id.number

def RelationshipId.text (id : RelationshipId) : String := numberText id.number

/-- The number that a text names, blanks around it aside. -/
def parseIdentity (s : String) : Option Nat := readIdentity (trimBlank s.toList)

/-- The signed number of 64 bits with the same bit pattern. -/
def wrapInt64 (n : Nat) : Int64 := Int64.ofNat n

end FacetedGraph
