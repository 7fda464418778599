import FacetedGraph.Binary64.Magnitude

/-!
# Binary64 numbers

A binary64 number is a sign and a magnitude, or it is not a number. All patterns that are not a
number are one value here, since no operation tells them apart.

## Main definitions

* `Binary64.compare` — the numeric order, in which the two zeros are equal and NaN has no place.
* `Binary64.ofInt`, `Binary64.truncate` — whole numbers in and out.
* `Binary64.ofBits`, `Binary64.toBits` — the interchange format.
-/

namespace FacetedGraph

inductive Binary64
  | nan
  | signed (negative : Bool) (magnitude : Magnitude)
  deriving DecidableEq

namespace Binary64

/-- Where a number stands in the numeric order; the two zeros share a place. -/
def place : Binary64 → Option Int
  | nan => none
  | signed negative m => some (if negative then -(m.rank : Int) else m.rank)

/-- The numeric order. Nothing compares with NaN. -/
def compare (a b : Binary64) : Option Ordering :=
  match a.place, b.place with
  | some i, some j => some (Ord.compare i j)
  | _, _ => none

/-- Numeric equality: the zeros are equal and NaN differs from itself. -/
def same (a b : Binary64) : Bool := a.compare b == some .eq

def isFinite : Binary64 → Bool
  | nan => false
  | signed _ m => !m.isInfinite

/-- Whether the number is finite and has no fractional part. -/
def isWhole : Binary64 → Bool
  | nan => false
  | signed _ m => !m.isInfinite && m.isWhole

/-- The number nearest to a whole one. -/
def ofInt (n : Int) : Binary64 := signed (n < 0) (Magnitude.ofNat n.natAbs)

def ofMagnitude (m : Magnitude) : Binary64 := signed false m

/-- The number without its fractional part, brought into the range `lo..hi`; NaN gives `0`. -/
def truncate (lo hi : Int) : Binary64 → Int
  | nan => 0
  | signed negative m =>
    if m.isInfinite then (if negative then lo else hi)
    else
      let n : Int := if negative then -(m.floor : Int) else m.floor
      max lo (min hi n)

/-- The nearest whole number, halves going away from zero, brought into the range `lo..hi`. -/
def roundTo (lo hi : Int) : Binary64 → Int
  | nan => 0
  | signed negative m =>
    if m.isInfinite then (if negative then lo else hi)
    else
      let n : Int := if negative then -(m.round : Int) else m.round
      max lo (min hi n)

/-- The number as a cost: what is below zero, and NaN, costs nothing. -/
def toCost : Binary64 → Magnitude
  | signed false m => m
  | _ => .zero

/-! ## Interchange format -/

/-- The bit that tells the sign. -/
def signBit : Nat := 0x8000000000000000

/-- The number with the given 64-bit pattern. -/
def ofBits (bits : Nat) : Binary64 :=
  let rank := bits % signBit
  if h : rank ≤ infinityRank then signed (bits / signBit % 2 == 1) ⟨rank, h⟩ else nan

/-- The 64-bit pattern of a number. -/
def toBits : Binary64 → Nat
  | nan => 0x7ff8000000000000
  | signed negative m => (if negative then signBit else 0) + m.rank

end Binary64

end FacetedGraph
