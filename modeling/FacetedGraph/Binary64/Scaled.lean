import FacetedGraph.Binary64.Magnitude

/-!
# Scaling by powers of ten

A whole number and a decimal exponent give a binary64 number step by step: the whole number is
rounded, a power of ten is rounded, and their product or quotient is rounded again. That takes no
long arithmetic and may miss the nearest number by a place or more.

## Main definitions

* `Magnitude.mul`, `Magnitude.div` — the operations, rounded once.
* `Magnitude.scaled` — the number that the steps give.
-/

namespace FacetedGraph.Magnitude

/-- The product of finite magnitudes, rounded once. -/
def mul (a b : Magnitude) : Magnitude := nearest (a.units * b.units) unitsPerOne

/-- The quotient of finite magnitudes, rounded once. -/
def div (a b : Magnitude) : Magnitude := nearest (a.units * unitsPerOne) b.units

/-- The exponent of the largest power of ten that is a finite number. -/
def maxDecimalExponent : Nat := 308

/-- The magnitude nearest to a power of ten. -/
def powerOfTen (exponent : Nat) : Magnitude := ofNat (Nat.pow 10 exponent)

/-- Divides by a power of ten, in as many steps as finite powers need. -/
def shrink (m : Magnitude) (exponent : Nat) : Magnitude :=
  if exponent ≤ maxDecimalExponent then m.div (powerOfTen exponent)
  else if m = zero then zero
  else shrink (m.div (powerOfTen maxDecimalExponent)) (exponent - maxDecimalExponent)
termination_by exponent
decreasing_by simp only [maxDecimalExponent] at *; omega

/-- The number that scaling `digits` by `10 ^ exponent` gives. -/
def scaled (digits : Nat) (exponent : Int) : Magnitude :=
  if exponent < 0 then (ofNat digits).shrink exponent.natAbs
  else if digits = 0 then zero
  else if exponent ≤ maxDecimalExponent then (ofNat digits).mul (powerOfTen exponent.toNat)
  else infinity

end FacetedGraph.Magnitude
