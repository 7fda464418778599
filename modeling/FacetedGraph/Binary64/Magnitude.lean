/-!
# Magnitudes of binary64 numbers

The non-negative binary64 numbers stand in one ascending row: zero, the finite multiples of
2⁻¹⁰⁷⁴ that the format can hold, and infinity at the end. A `Magnitude` is a place in that row, so
magnitudes compare as their places do.

## Main definitions

* `Magnitude.units` — a finite magnitude as a whole number of units 2⁻¹⁰⁷⁴.
* `Magnitude.nearest` — the magnitude nearest to a fraction of units, ties going to the even place.
* `Magnitude.ofFraction`, `Magnitude.ofNat`, `Magnitude.add` — values that are rounded once.
-/

namespace FacetedGraph

/-- The place of infinity, after every finite number. -/
def infinityRank : Nat := 0x7ff0000000000000

/-- A non-negative binary64 number, held as its place among them. -/
structure Magnitude where
  rank : Nat
  rank_le : rank ≤ infinityRank := by decide
  deriving DecidableEq

namespace Magnitude

@[ext] theorem ext {a b : Magnitude} (h : a.rank = b.rank) : a = b := by
  cases a; cases b; simp_all

instance : LE Magnitude where
  le a b := a.rank ≤ b.rank

instance : LT Magnitude where
  lt a b := a.rank < b.rank

instance (a b : Magnitude) : Decidable (a ≤ b) :=
  inferInstanceAs (Decidable (a.rank ≤ b.rank))

instance (a b : Magnitude) : Decidable (a < b) :=
  inferInstanceAs (Decidable (a.rank < b.rank))

theorem le_def {a b : Magnitude} : a ≤ b ↔ a.rank ≤ b.rank := Iff.rfl

theorem lt_def {a b : Magnitude} : a < b ↔ a.rank < b.rank := Iff.rfl

def zero : Magnitude := ⟨0, by decide⟩

def infinity : Magnitude := ⟨infinityRank, Nat.le_refl _⟩

theorem zero_le (m : Magnitude) : zero ≤ m := Nat.zero_le _

theorem le_infinity (m : Magnitude) : m ≤ infinity := m.rank_le

def isInfinite (m : Magnitude) : Bool := m.rank == infinityRank

/-- The places at or below infinity: a place beyond it is cut back to it. -/
def ofRank (rank : Nat) : Magnitude := ⟨min rank infinityRank, Nat.min_le_right _ _⟩

/-! ## Places and units -/

/-- How many places there are from one power of two to the next: 2⁵². -/
def binade : Nat := 0x10000000000000

/-- How many units 2⁻¹⁰⁷⁴ the number at a place has. Up to the end of the second binade each place
has one unit more than the one before; then the step doubles from binade to binade. -/
def unitsAt (rank : Nat) : Nat :=
  if rank / binade = 0 then rank
  else (binade + rank % binade) * Nat.pow 2 (rank / binade - 1)

/-- A finite magnitude as a whole number of units 2⁻¹⁰⁷⁴. -/
def units (m : Magnitude) : Nat := unitsAt m.rank

/-- How many units make one. -/
def unitsPerOne : Nat := Nat.pow 2 1074

/-- The whole number nearest to `num / den`; halfway between two, the even one. -/
def roundDiv (num den : Nat) : Nat :=
  let q := num / den
  let r := num % den
  if 2 * r > den ∨ 2 * r = den ∧ q % 2 = 1 then q + 1 else q

/-- A whole quotient is not changed. -/
theorem roundDiv_mul (n : Nat) {den : Nat} (h : 0 < den) : roundDiv (n * den) den = n := by
  simp [roundDiv, Nat.mul_div_cancel n h]; omega

/-- The magnitude nearest to `num / den` units. Numbers with more than 53 significant bits lose
the lowest ones, `drop` of them. -/
def nearest (num den : Nat) : Magnitude :=
  let drop := (num / den).log2 - 52
  ofRank (drop * binade + roundDiv num (den * Nat.pow 2 drop))

/-- The magnitude nearest to the fraction `num / den`. -/
def ofFraction (num den : Nat) : Magnitude := nearest (num * unitsPerOne) den

/-- The magnitude nearest to a whole number. -/
def ofNat (n : Nat) : Magnitude := ofFraction n 1

def one : Magnitude := ofNat 1

/-! ## Arithmetic -/

/-- The sum, rounded once. -/
def add (a b : Magnitude) : Magnitude :=
  if a.isInfinite || b.isInfinite then infinity else nearest (a.units + b.units) 1

instance : Add Magnitude := ⟨add⟩

/-- Whether a finite magnitude is a whole number. -/
def isWhole (m : Magnitude) : Bool := m.units % unitsPerOne == 0

/-- The whole part of a finite magnitude. -/
def floor (m : Magnitude) : Nat := m.units / unitsPerOne

/-- The whole number nearest to a finite magnitude, a half going up. -/
def round (m : Magnitude) : Nat := (2 * m.units + unitsPerOne) / (2 * unitsPerOne)

end Magnitude

end FacetedGraph
