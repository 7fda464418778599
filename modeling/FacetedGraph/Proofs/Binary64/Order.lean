import FacetedGraph.Binary64.Basic
import Mathlib.Algebra.Ring.Nat
import Mathlib.Order.Defs.LinearOrder
import Mathlib.Tactic.Common

/-!
# Order of magnitudes and sums

Rounding to the nearest place keeps the order and leaves alone what stands at a place. So sums of
magnitudes keep the order too, and never fall below what was added to. Whole numbers up to 2⁵³ stand
at places of their own; beyond, several of them share a place.

## Main definitions

* `Binary64.placeOfInt` — the place of a whole number.

## Main statements

* `Magnitude.nearest_mono`, `Magnitude.nearest_units` — laws of rounding.
* `Magnitude.units_ofNat` — what is not rounded.
* `Magnitude.add_le_add_right`, `Magnitude.le_add_right` — laws of sums.
* `Binary64.place_toCost` — a cost is the larger of a number and zero.
* `Binary64.placeOfInt_mono`, `Binary64.placeOfInt_injOn` — the places of whole numbers.
-/

namespace FacetedGraph

namespace Magnitude

instance : LinearOrder Magnitude where
  le_refl a := Nat.le_refl a.rank
  le_trans _ _ _ := Nat.le_trans
  lt_iff_le_not_ge _ _ := Nat.lt_iff_le_and_not_ge
  le_antisymm _ _ hab hba := Magnitude.ext (Nat.le_antisymm hab hba)
  le_total a b := Nat.le_total a.rank b.rank
  toDecidableLE := inferInstance

/-! ## Rounding -/

variable {num num' den : Nat}

theorem le_roundDiv (num den : Nat) : num / den ≤ roundDiv num den := by
  simp only [roundDiv]
  split <;> omega

theorem roundDiv_le (num den : Nat) : roundDiv num den ≤ num / den + 1 := by
  simp only [roundDiv]
  split <;> omega

theorem roundDiv_mono (h : num ≤ num') (den : Nat) : roundDiv num den ≤ roundDiv num' den := by
  rcases Nat.lt_or_eq_of_le (Nat.div_le_div_right (c := den) h) with hlt | heq
  · exact Nat.le_trans (roundDiv_le num den) (Nat.le_trans hlt (le_roundDiv num' den))
  · -- of one quotient, the larger number has the larger remainder
    have hrest : num % den ≤ num' % den := by
      have := Nat.div_add_mod num den
      have := Nat.div_add_mod num' den
      rw [heq] at *
      omega
    simp only [roundDiv, heq]
    split <;> split <;> omega

theorem binade_eq : binade = 2 ^ 52 := by decide

/-- How many of the lowest bits are lost. -/
def dropped (num den : Nat) : Nat := (num / den).log2 - 52

theorem rank_nearest (num den : Nat) : (nearest num den).rank =
    min (dropped num den * binade + roundDiv num (den * 2 ^ dropped num den)) infinityRank :=
  rfl

theorem dropped_mono (h : num ≤ num') (den : Nat) : dropped num den ≤ dropped num' den := by
  refine Nat.sub_le_sub_right ?_ 52
  have hq : num / den ≤ num' / den := Nat.div_le_div_right h
  rcases Nat.eq_zero_or_pos (num / den) with hzero | hpos
  · rw [hzero, Nat.log2_zero]
    exact Nat.zero_le _
  · exact (Nat.le_log2 (by omega)).2 (Nat.le_trans (Nat.log2_self_le (by omega)) hq)

/-- What is left has at most 53 bits, or is the first number with more. -/
theorem roundDiv_dropped_le (num den : Nat) :
    roundDiv num (den * 2 ^ dropped num den) ≤ 2 * binade := by
  refine Nat.le_trans (roundDiv_le _ _) ?_
  rw [← Nat.div_div_eq_div_mul, Nat.succ_le_iff, Nat.div_lt_iff_lt_mul (Nat.two_pow_pos _)]
  rw [binade_eq, ← Nat.pow_succ', ← Nat.pow_add]
  refine Nat.lt_of_lt_of_le Nat.lt_log2_self (Nat.pow_le_pow_right (by omega) ?_)
  unfold dropped
  omega

/-- Where bits are lost, 53 are left. -/
theorem le_roundDiv_dropped (num den : Nat) (h : 0 < dropped num den) :
    binade ≤ roundDiv num (den * 2 ^ dropped num den) := by
  refine Nat.le_trans ?_ (le_roundDiv _ _)
  rw [← Nat.div_div_eq_div_mul, Nat.le_div_iff_mul_le (Nat.two_pow_pos _)]
  have hlog : 52 + dropped num den = (num / den).log2 := by
    unfold dropped at h ⊢
    omega
  have hne : num / den ≠ 0 := by
    intro hzero
    rw [hzero] at hlog
    simp at hlog
  rw [binade_eq, ← Nat.pow_add, hlog]
  exact Nat.log2_self_le hne

theorem nearest_mono (h : num ≤ num') (den : Nat) : nearest num den ≤ nearest num' den := by
  rw [le_def, rank_nearest, rank_nearest]
  refine Nat.le_min.2 ⟨Nat.le_trans (Nat.min_le_left _ _) ?_, Nat.min_le_right _ _⟩
  rcases Nat.lt_or_eq_of_le (dropped_mono h den) with hlt | heq
  · have hupper := roundDiv_dropped_le num den
    have hlower := le_roundDiv_dropped num' den (by omega)
    have hplaces : (dropped num den + 1) * binade ≤ dropped num' den * binade :=
      Nat.mul_le_mul_right binade hlt
    rw [Nat.add_mul] at hplaces
    omega
  · rw [← heq]
    exact Nat.add_le_add_left (roundDiv_mono h _) _

/-- What has no more bits than are left has its own place. -/
theorem rank_nearest_shifted (n shift : Nat) (hn : n < 2 * binade)
    (hfull : 0 < shift → binade ≤ n) :
    (nearest (n * 2 ^ shift) 1).rank = min (shift * binade + n) infinityRank := by
  have hdropped : dropped (n * 2 ^ shift) 1 = shift := by
    rw [dropped, Nat.div_one]
    rcases Nat.eq_zero_or_pos shift with rfl | hshift
    · rcases Nat.eq_zero_or_pos n with rfl | hpos
      · decide
      · have : n.log2 < 53 := (Nat.log2_lt (by omega)).2 (by rw [binade_eq] at hn; omega)
        rw [Nat.pow_zero, Nat.mul_one]
        omega
    · have hlow : 2 ^ (52 + shift) ≤ n * 2 ^ shift := by
        rw [Nat.pow_add, ← binade_eq]
        exact Nat.mul_le_mul_right _ (hfull hshift)
      have hhigh : n * 2 ^ shift < 2 ^ (52 + shift + 1) := by
        rw [Nat.add_right_comm, Nat.pow_add]
        exact Nat.mul_lt_mul_of_pos_right (by rw [binade_eq] at hn; omega) (Nat.two_pow_pos _)
      have hne : n * 2 ^ shift ≠ 0 := by
        have := Nat.two_pow_pos (52 + shift)
        omega
      rw [(Nat.log2_eq_iff hne).2 ⟨hlow, hhigh⟩]
      omega
  rw [rank_nearest, hdropped, Nat.one_mul, roundDiv_mul n (Nat.two_pow_pos shift)]

/-- A number that stands at a place is left there. -/
theorem nearest_units (m : Magnitude) : nearest m.units 1 = m := by
  obtain ⟨rank, hrank⟩ := m
  refine Magnitude.ext ?_
  have hsplit := Nat.div_add_mod rank binade
  have hsmall : rank % binade < binade := Nat.mod_lt rank (by decide)
  unfold units unitsAt
  split
  case isTrue hfirst =>
    rw [hfirst, Nat.mul_zero, Nat.zero_add] at hsplit
    have hplace := rank_nearest_shifted rank 0 (by omega) (by omega)
    rwa [Nat.pow_zero, Nat.mul_one, Nat.zero_mul, Nat.zero_add, Nat.min_eq_left hrank] at hplace
  case isFalse hlater =>
    change ¬ rank / binade = 0 at hlater
    have hplace := rank_nearest_shifted (binade + rank % binade) (rank / binade - 1) (by omega)
      (by omega)
    refine hplace.trans ?_
    generalize rank / binade = q at hsplit hlater
    obtain ⟨shift, rfl⟩ := Nat.exists_eq_succ_of_ne_zero hlater
    have hsum : shift * binade + (binade + rank % binade) = rank := by
      rw [Nat.mul_succ, Nat.mul_comm] at hsplit
      omega
    rw [Nat.succ_sub_one, hsum, Nat.min_eq_left hrank]

/-! ## Whole numbers -/

theorem ofNat_mono {m n : Nat} (h : m ≤ n) : ofNat m ≤ ofNat n :=
  nearest_mono (Nat.mul_le_mul_right unitsPerOne h) 1

theorem ofNat_pos {n : Nat} (h : 0 < n) : zero < ofNat n := by
  have hone : zero < ofNat 1 := by decide +kernel
  exact lt_of_lt_of_le hone (ofNat_mono h)

/-- A number of 53 bits is not rounded. -/
theorem units_nearest_shifted {n shift : Nat} (hlow : binade ≤ n) (hhigh : n < 2 * binade)
    (hfinite : shift * binade + n ≤ infinityRank) :
    (nearest (n * 2 ^ shift) 1).units = n * 2 ^ shift := by
  have hsplit : shift * binade + n = binade * (shift + 1) + (n - binade) := by
    rw [Nat.mul_succ, Nat.mul_comm]
    omega
  have hdiv : (shift * binade + n) / binade = shift + 1 := by
    rw [hsplit, Nat.mul_add_div (by decide), Nat.div_eq_of_lt (by omega)]
  have hmod : (shift * binade + n) % binade = n - binade := by
    rw [hsplit, Nat.mul_add_mod, Nat.mod_eq_of_lt (by omega)]
  rw [units, rank_nearest_shifted n shift hhigh fun _ => hlow, Nat.min_eq_left hfinite, unitsAt,
    hdiv, hmod, if_neg (Nat.succ_ne_zero shift), Nat.add_sub_cancel' hlow]
  rfl

/-- Whole numbers up to 2⁵³ are not rounded. -/
theorem units_ofNat {n : Nat} (h : n ≤ 2 * binade) : (ofNat n).units = n * unitsPerOne := by
  rcases Nat.eq_zero_or_pos n with rfl | hpos
  · decide +kernel
  rcases Nat.lt_or_eq_of_le h with hlt | rfl
  · -- moved up by the bits that it lacks, the number has 53 of them
    have hlog : n.log2 < 53 := (Nat.log2_lt (by omega)).2 hlt
    have hlow : binade ≤ n * 2 ^ (52 - n.log2) := by
      have hpow : 2 ^ n.log2 * 2 ^ (52 - n.log2) = binade := by
        rw [← Nat.pow_add, Nat.add_sub_cancel' (by omega), binade_eq]
      rw [← hpow]
      exact Nat.mul_le_mul_right _ (Nat.log2_self_le (by omega))
    have hhigh : n * 2 ^ (52 - n.log2) < 2 * binade := by
      have hpow : 2 ^ (n.log2 + 1) * 2 ^ (52 - n.log2) = 2 * binade := by
        have hbits : n.log2 + 1 + (52 - n.log2) = 53 := by omega
        rw [← Nat.pow_add, hbits]
        decide
      rw [← hpow]
      exact Nat.mul_lt_mul_of_pos_right Nat.lt_log2_self (Nat.two_pow_pos _)
    have hsplit : n * unitsPerOne = n * 2 ^ (52 - n.log2) * 2 ^ (1022 + n.log2) := by
      have hone : unitsPerOne = 2 ^ 1074 := by decide +kernel
      have hbits : 52 - n.log2 + (1022 + n.log2) = 1074 := by omega
      rw [Nat.mul_assoc, ← Nat.pow_add, hbits, hone]
    have hfinite : (1022 + n.log2) * binade + n * 2 ^ (52 - n.log2) ≤ infinityRank := by
      have hinfinity : infinityRank = 2047 * binade := by decide
      have hshift : (1022 + n.log2) * binade ≤ 1074 * binade := Nat.mul_le_mul_right _ (by omega)
      omega
    rw [ofNat, ofFraction, hsplit, units_nearest_shifted hlow hhigh hfinite]
  · have hdouble : 2 * binade * unitsPerOne = binade * 2 ^ 1075 := by decide +kernel
    rw [ofNat, ofFraction, hdouble]
    exact units_nearest_shifted (Nat.le_refl _) (by decide) (by decide)

theorem ofNat_injOn {m n : Nat} (hm : m ≤ 2 * binade) (hn : n ≤ 2 * binade)
    (h : ofNat m = ofNat n) : m = n := by
  have hunits := congrArg units h
  rw [units_ofNat hm, units_ofNat hn] at hunits
  exact Nat.eq_of_mul_eq_mul_right (by decide +kernel) hunits

/-! ## Sums -/

variable {a b : Magnitude}

theorem units_mono (h : a ≤ b) : a.units ≤ b.units := by
  rcases Nat.le_total a.units b.units with hle | hge
  · exact hle
  · have hba := nearest_mono hge 1
    rw [nearest_units, nearest_units] at hba
    exact Nat.le_of_eq (by rw [le_antisymm h hba])

theorem add_le_add_right (h : a ≤ b) (w : Magnitude) : a + w ≤ b + w := by
  change add a w ≤ add b w
  unfold add
  by_cases hb : (b.isInfinite || w.isInfinite) = true
  · rw [if_pos hb]
    exact le_infinity _
  · have ha : ¬ (a.isInfinite || w.isInfinite) = true := by
      simp only [isInfinite, Bool.or_eq_true, beq_iff_eq, not_or] at hb ⊢
      have := b.rank_le
      have := le_def.1 h
      omega
    rw [if_neg ha, if_neg hb]
    exact nearest_mono (Nat.add_le_add_right (units_mono h) _) 1

theorem le_add_right (a w : Magnitude) : a ≤ a + w := by
  change a ≤ add a w
  unfold add
  split
  · exact le_infinity a
  · calc a = nearest a.units 1 := (nearest_units a).symm
      _ ≤ nearest (a.units + w.units) 1 := nearest_mono (Nat.le_add_right _ _) 1

end Magnitude

namespace Binary64

/-- A cost is the larger of a number and zero, and zero for what is not a number. -/
theorem place_toCost (x : Binary64) :
    (ofMagnitude x.toCost).place = some (max 0 (x.place.getD 0)) := by
  cases x with
  | nan => rfl
  | signed negative m =>
    cases negative
    · have hrank : (m.rank : Int) = max 0 (m.rank : Int) := by omega
      exact congrArg some hrank
    · have hrank : ((0 : Nat) : Int) = max 0 (-(m.rank : Int)) := by omega
      exact congrArg some hrank

/-! ## Places of whole numbers -/

/-- Where the number nearest to a whole one stands in the numeric order. -/
def placeOfInt (n : Int) : Int :=
  if n < 0 then -((Magnitude.ofNat n.natAbs).rank : Int) else (Magnitude.ofNat n.natAbs).rank

theorem place_ofInt (n : Int) : (ofInt n).place = some (placeOfInt n) := by
  simp only [ofInt, place, placeOfInt, decide_eq_true_eq]

theorem placeOfInt_mono {m n : Int} (h : m ≤ n) : placeOfInt m ≤ placeOfInt n := by
  unfold placeOfInt
  split <;> split
  · have habs : n.natAbs ≤ m.natAbs := by omega
    have hrank := Magnitude.le_def.1 (Magnitude.ofNat_mono habs)
    omega
  · omega
  · omega
  · have habs : m.natAbs ≤ n.natAbs := by omega
    have hrank := Magnitude.le_def.1 (Magnitude.ofNat_mono habs)
    omega

/-- Up to 2⁵³ different whole numbers stand at different places. -/
theorem placeOfInt_injOn {m n : Int} (hm : m.natAbs ≤ 2 ^ 53) (hn : n.natAbs ≤ 2 ^ 53)
    (h : placeOfInt m = placeOfInt n) : m = n := by
  have hpos {k : Int} (hk : k < 0) : 0 < (Magnitude.ofNat k.natAbs).rank :=
    Magnitude.lt_def.1 (Magnitude.ofNat_pos (by omega))
  have hrank (heq : (Magnitude.ofNat m.natAbs).rank = (Magnitude.ofNat n.natAbs).rank) :
      m.natAbs = n.natAbs := Magnitude.ofNat_injOn hm hn (Magnitude.ext heq)
  unfold placeOfInt at h
  split at h <;> split at h <;> grind

theorem compare_eq_some_iff {x y : Binary64} {o : Ordering} :
    x.compare y = some o ↔ ∃ i j, x.place = some i ∧ y.place = some j ∧ Ord.compare i j = o := by
  unfold compare
  cases x.place <;> cases y.place <;> simp

end Binary64

end FacetedGraph
