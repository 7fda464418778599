import FacetedGraph.Proofs.Binary64.Order
import FacetedGraph.Value.Compare

/-!
# The order of values

Booleans, texts and integers are in total orders, and so are floats, NaN aside. An integer is
compared with a float through the float nearest to it, and with an integer as it is. Where integers
share their nearest float the two ways disagree: the float equals each of them, and they differ.
This is the only way in which comparisons fail to be transitive, and it takes integers beyond 2⁵³.

## Main definitions

* `Value.place` — where a number stands among the floats.
* `Value.Compared` — which values compare, and how.
* `Value.Merges` — a float that equals two different integers.

## Main statements

* `Value.compare_eq_some` — comparison told by the kinds of the values.
* `Value.compare_swap` — the other way round.
* `Value.compare_then` — two comparisons in a row.
* `Value.compare_consistent` — what becomes of a partial order.
-/

namespace FacetedGraph

/-- Two comparisons in a row, none of which goes down. -/
theorem compare_trans {α : Type} [Ord α] [Std.TransOrd α] {i j k : α} {o p : Ordering}
    (ho : Ord.compare i j = o) (hp : Ord.compare j k = p) (ho' : o ≠ .gt) (hp' : p ≠ .gt) :
    Ord.compare i k = o.then p := by
  cases o with
  | lt =>
    cases p with
    | lt => exact Std.TransCmp.lt_trans ho hp
    | eq => exact Std.TransCmp.lt_of_lt_of_eq ho hp
    | gt => exact absurd rfl hp'
  | eq =>
    cases p with
    | lt => exact Std.TransCmp.lt_of_eq_of_lt ho hp
    | eq => exact Std.TransCmp.eq_trans ho hp
    | gt => exact absurd rfl hp'
  | gt => exact absurd rfl ho'

namespace Value

open Binary64 (placeOfInt placeOfInt_mono)

variable {a b c v : Value} {o p : Ordering} {i j : Int} {m n : Int64} {x : Binary64}

/-- Where a number stands among the floats. -/
def place (v : Value) : Option Int := v.asFloat.bind Binary64.place

theorem place_int (n : Int64) : (int n).place = some (placeOfInt n.toInt) :=
  Binary64.place_ofInt n.toInt

def isFloat : Value → Bool
  | float _ => true
  | _ => false

/-- How values compare. Numbers of which one is a float compare by their places. -/
inductive Compared : Value → Value → Ordering → Prop
  | bool (a b : Bool) : Compared (bool a) (bool b) (Ord.compare a b)
  | int (m n : Int64) : Compared (int m) (int n) (Ord.compare m n)
  | string (s t : String) : Compared (string s) (string t) (Ord.compare s t)
  | place {a b : Value} {i j : Int} (hfloat : a.isFloat || b.isFloat) (ha : a.place = some i)
      (hb : b.place = some j) : Compared a b (Ord.compare i j)

theorem compare_of_place (hfloat : a.isFloat || b.isFloat) (ha : a.place = some i)
    (hb : b.place = some j) : a.compare b = some (Ord.compare i j) := by
  cases a with
  | float x =>
    cases b with
    | float y => exact Binary64.compare_eq_some_iff.2 ⟨i, j, ha, hb, rfl⟩
    | int n => exact Binary64.compare_eq_some_iff.2 ⟨i, j, ha, hb, rfl⟩
    | _ => cases hb
  | int m =>
    cases b with
    | float y => exact Binary64.compare_eq_some_iff.2 ⟨i, j, ha, hb, rfl⟩
    | _ => cases hfloat
  | _ => cases ha

theorem compare_eq_some : a.compare b = some o ↔ Compared a b o := by
  constructor
  · intro h
    unfold compare at h
    split at h
    case h_1 a b => cases h; exact .bool a b
    case h_2 m n => cases h; exact .int m n
    case h_6 s t => cases h; exact .string s t
    case h_7 => cases h
    all_goals
      obtain ⟨i, j, ha, hb, rfl⟩ := Binary64.compare_eq_some_iff.1 h
      exact .place rfl ha hb
  · rintro (⟨a, b⟩ | ⟨m, n⟩ | ⟨s, t⟩ | ⟨hfloat, ha, hb⟩)
    · rfl
    · rfl
    · rfl
    · exact compare_of_place hfloat ha hb

theorem Compared.swap (h : Compared a b o) : Compared b a o.swap := by
  cases h with
  | bool a b => rw [← Std.OrientedOrd.eq_swap]; exact .bool b a
  | int m n => rw [← Std.OrientedOrd.eq_swap]; exact .int n m
  | string s t => rw [← Std.OrientedOrd.eq_swap]; exact .string t s
  | place hfloat ha hb =>
    rw [← Std.OrientedOrd.eq_swap]
    exact .place (by rwa [Bool.or_comm]) hb ha

/-- The other way round the order is the reverse one. -/
theorem compare_swap (a b : Value) : b.compare a = (a.compare b).map Ordering.swap := by
  refine Option.ext fun o => ?_
  rw [Option.map_eq_some_iff, compare_eq_some]
  constructor
  · intro h
    exact ⟨o.swap, compare_eq_some.2 h.swap, Ordering.swap_swap⟩
  · rintro ⟨p, hp, rfl⟩
    exact (compare_eq_some.1 hp).swap

theorem compare_int (m n : Int64) : Ord.compare m n = Ord.compare m.toInt n.toInt := by
  cases h : Ord.compare m.toInt n.toInt with
  | lt => exact Std.compare_eq_lt.2 (Int64.lt_iff_toInt_lt.2 (Int.compare_eq_lt.1 h))
  | eq =>
    rw [Int64.toInt_inj.1 (Int.compare_eq_eq.1 h)]
    exact Std.ReflCmp.compare_self
  | gt => exact Std.compare_eq_gt.2 (Int64.lt_iff_toInt_lt.2 (Int.compare_eq_gt.1 h))

/-! ## Merged integers -/

/-- A float equals two different integers. -/
inductive Merges : Value → Value → Value → Prop
  | intro {x : Binary64} {m n : Int64} (hne : m ≠ n) (hm : (float x).compare (int m) = some .eq)
      (hn : (float x).compare (int n) = some .eq) : Merges (float x) (int m) (int n)

theorem merges_iff (hx : (float x).place = some j) :
    Merges (float x) (int m) (int n) ↔
      m.toInt ≠ n.toInt ∧ placeOfInt m.toInt = j ∧ placeOfInt n.toInt = j := by
  have hequal (k : Int64) :
      (float x).compare (int k) = some .eq ↔ placeOfInt k.toInt = j := by
    rw [compare_of_place rfl hx (place_int k), Option.some_inj, Int.compare_eq_eq, eq_comm]
  rw [← hequal, ← hequal, ne_eq, Int64.toInt_inj]
  constructor
  · rintro ⟨hne, hm, hn⟩
    exact ⟨hne, hm, hn⟩
  · rintro ⟨hne, hm, hn⟩
    exact ⟨hne, hm, hn⟩

/-- It takes an integer beyond 2⁵³ to be merged with another one. -/
theorem Merges.exists_large (h : Merges v a b) :
    ∃ n : Int64, (a = .int n ∨ b = .int n) ∧ 2 ^ 53 < n.toInt.natAbs := by
  cases h with
  | @intro x m n hne hm hn =>
    obtain ⟨j, -, hx, -⟩ := Binary64.compare_eq_some_iff.1 hm
    obtain ⟨hne, hm, hn⟩ := (merges_iff hx).1 (.intro hne hm hn)
    by_contra hsmall
    push Not at hsmall
    exact hne (Binary64.placeOfInt_injOn (hsmall m (.inl rfl)) (hsmall n (.inr rfl))
      (hm.trans hn.symm))

/-! ## Comparisons in a row

Places never go down where integers go up. So a step between integers that goes up may stay at a
place, which is where it gets lost beside a float, and a float between two integers loses what is
between them.
-/

theorem int_of_place (h : v.place = some i) (hfloat : v.isFloat = false) :
    ∃ n, v = int n ∧ placeOfInt n.toInt = i := by
  cases v with
  | int n => exact ⟨n, rfl, Option.some.inj ((place_int n).symm.trans h)⟩
  | float x => cases hfloat
  | _ => cases h

theorem float_of_isFloat (h : v.isFloat) : ∃ x, v = float x := by
  cases v with
  | float x => exact ⟨x, rfl⟩
  | _ => cases h

section Mixed

variable (hx : (float x).place = some j) (ho' : o ≠ .gt) (hp' : p ≠ .gt)

include hx ho' hp'

theorem compare_ints_float (ho : Ord.compare m n = o)
    (hp : Ord.compare (placeOfInt n.toInt) j = p) :
    (int m).compare (float x) = some (o.then p) ↔ ¬ Merges (float x) (int m) (int n) := by
  have hmono := placeOfInt_mono (m := m.toInt) (n := n.toInt)
  rw [compare_of_place rfl (place_int m) hx, Option.some_inj, merges_iff hx]
  rw [compare_int] at ho
  cases o <;> cases p <;> grind [Int.compare_eq_lt, Int.compare_eq_eq, Ordering.then]

theorem compare_float_ints (ho : Ord.compare j (placeOfInt m.toInt) = o)
    (hp : Ord.compare m n = p) :
    (float x).compare (int n) = some (o.then p) ↔ ¬ Merges (float x) (int m) (int n) := by
  have hmono := placeOfInt_mono (m := m.toInt) (n := n.toInt)
  rw [compare_of_place rfl hx (place_int n), Option.some_inj, merges_iff hx]
  rw [compare_int] at hp
  cases o <;> cases p <;> grind [Int.compare_eq_lt, Int.compare_eq_eq, Ordering.then]

theorem compare_int_float_int (ho : Ord.compare (placeOfInt m.toInt) j = o)
    (hp : Ord.compare j (placeOfInt n.toInt) = p) :
    (int m).compare (int n) = some (o.then p) ↔ ¬ Merges (float x) (int m) (int n) := by
  have hmono := placeOfInt_mono (m := n.toInt) (n := m.toInt)
  have hcompare : (int m).compare (int n) = some (Ord.compare m n) := rfl
  rw [hcompare, compare_int, Option.some_inj, merges_iff hx]
  cases o <;> cases p <;> grind [Int.compare_eq_lt, Int.compare_eq_eq, Ordering.then]

end Mixed

/-- Two comparisons in a row say how the ends compare, unless a float among the three merges the
two others. -/
theorem compare_then (ho : a.compare b = some o) (hp : b.compare c = some p) (ho' : o ≠ .gt)
    (hp' : p ≠ .gt) :
    a.compare c = some (o.then p) ↔ ¬ (c.Merges a b ∨ a.Merges b c ∨ b.Merges a c) := by
  cases compare_eq_some.1 ho with
  | bool a b =>
    cases compare_eq_some.1 hp with
    | bool b c =>
      exact iff_of_true (congrArg some (compare_trans rfl rfl ho' hp')) nofun
    | place _ hb _ => cases hb
  | string a b =>
    cases compare_eq_some.1 hp with
    | string b c =>
      exact iff_of_true (congrArg some (compare_trans rfl rfl ho' hp')) nofun
    | place _ hb _ => cases hb
  | int m n =>
    cases compare_eq_some.1 hp with
    | int n k =>
      exact iff_of_true (congrArg some (compare_trans rfl rfl ho' hp')) nofun
    | @place _ _ i j hfloat hb hc =>
      obtain ⟨x, rfl⟩ := float_of_isFloat hfloat
      rw [place_int] at hb
      cases hb
      rw [compare_ints_float hc ho' hp' rfl rfl, or_iff_left nofun]
  | @place _ _ i j hfloat ha hb =>
    cases compare_eq_some.1 hp with
    | bool b c => cases hb
    | string b c => cases hb
    | int m n =>
      obtain ⟨x, rfl⟩ := float_of_isFloat ((Bool.or_false a.isFloat).symm.trans hfloat)
      rw [place_int] at hb
      cases hb
      rw [compare_float_ints ha ho' hp' rfl rfl, or_iff_right nofun, or_iff_left nofun]
    | @place _ _ j k hfloat' hb' hc =>
      -- Only integers at both ends are compared otherwise than by place.
      cases hb.symm.trans hb'
      cases hends : a.isFloat || c.isFloat with
      | true =>
        rw [compare_of_place hends ha hc, compare_trans rfl rfl ho' hp']
        refine iff_of_true rfl ?_
        rintro (⟨-, -, -⟩ | ⟨-, -, -⟩ | ⟨-, -, -⟩)
        · cases hfloat
        · cases hfloat'
        · cases hends
      | false =>
        rw [Bool.or_eq_false_iff] at hends
        obtain ⟨m, rfl, rfl⟩ := int_of_place ha hends.1
        obtain ⟨n, rfl, rfl⟩ := int_of_place hc hends.2
        obtain ⟨x, rfl⟩ := float_of_isFloat hfloat
        rw [compare_int_float_int hb ho' hp' rfl rfl, or_iff_right nofun, or_iff_right nofun]

/-! ## Equal numbers -/

theorem equivalent_iff_compare (ha : a.isNumber) (hb : b.isNumber) :
    a.equivalent b ↔ a.compare b = some .eq := by
  have hnull {v : Value} (hv : v.isNumber) : v.isNull = false := by
    cases v <;> first | rfl | cases hv
  rw [equivalent, hnull ha, hnull hb, ha, hb]
  exact beq_iff_eq

theorem equivalent_comm (ha : a.isNumber) (hb : b.isNumber) : a.equivalent b ↔ b.equivalent a := by
  rw [equivalent_iff_compare ha hb, equivalent_iff_compare hb ha, compare_swap a b]
  cases a.compare b with
  | none => simp
  | some o => cases o <;> simp

theorem equivalent_trans_iff (ha : a.isNumber) (hb : b.isNumber) (hc : c.isNumber)
    (hab : a.equivalent b) (hbc : b.equivalent c) : a.equivalent c ↔ ¬ b.Merges a c := by
  rw [equivalent_iff_compare ha hb] at hab
  rw [equivalent_iff_compare hb hc] at hbc
  have hapart {u w z : Value} (huw : u.compare w = some .eq) : ¬ z.Merges u w := by
    rintro ⟨hne, -, -⟩
    exact hne (Std.LawfulEqOrd.eq_of_compare (Option.some.inj huw))
  rw [equivalent_iff_compare ha hc]
  refine (compare_then hab hbc nofun nofun).trans (not_congr ?_)
  rw [or_iff_right (hapart hab), or_iff_right (hapart hbc)]

/-- Comparison the other way round is the reverse one. Of values in a row none of which is greater
than the next, the first is not greater than the last, and less where one of the steps is, unless a
float among the three merges the two others. So equality of numbers is symmetric, and transitive
but for merged integers. These lie beyond 2⁵³. -/
theorem compare_consistent (a b c : Value) :
    b.compare a = (a.compare b).map Ordering.swap ∧
      (∀ o p, o ≠ .gt → p ≠ .gt → a.compare b = some o → b.compare c = some p →
        (a.compare c = some (o.then p) ↔ ¬ (c.Merges a b ∨ a.Merges b c ∨ b.Merges a c))) ∧
      (a.isNumber → b.isNumber → (a.equivalent b ↔ b.equivalent a)) ∧
      (a.isNumber → b.isNumber → c.isNumber → a.equivalent b → b.equivalent c →
        (a.equivalent c ↔ ¬ b.Merges a c)) ∧
      (b.Merges a c → ∃ n, (a = int n ∨ c = int n) ∧ 2 ^ 53 < n.toInt.natAbs) :=
  ⟨compare_swap a b, fun _ _ ho' hp' ho hp => compare_then ho hp ho' hp', equivalent_comm,
    equivalent_trans_iff, Merges.exists_large⟩

/-- Small numbers are in order. -/
theorem compare_consistent_small :
    (int 1).compare (float (.ofBits 0x3ff8000000000000)) = some .lt ∧
      (float (.ofBits 0x3ff8000000000000)).compare (int 2) = some .lt ∧
      (int 1).compare (int 2) = some (Ordering.lt.then .lt) ∧
      (int 1).equivalent (float (.ofInt 1)) ∧ (float (.ofInt 1)).equivalent (int 1) ∧
      (int 1).equivalent (int 1) := by
  obtain ⟨-, hthen, -⟩ := compare_consistent (int 1) (float (.ofBits 0x3ff8000000000000)) (int 2)
  obtain ⟨-, -, hcomm, htrans, -⟩ := compare_consistent (int 1) (float (.ofInt 1)) (int 1)
  have hless : (int 1).compare (float (.ofBits 0x3ff8000000000000)) = some .lt := by decide +kernel
  have hless' : (float (.ofBits 0x3ff8000000000000)).compare (int 2) = some .lt := by
    decide +kernel
  have hequal : (int 1).equivalent (float (.ofInt 1)) := by decide +kernel
  have hequal' := (hcomm rfl rfl).1 hequal
  refine ⟨hless, hless', (hthen .lt .lt nofun nofun hless hless').2 ?_, hequal, hequal',
    (htrans rfl rfl rfl hequal hequal').2 ?_⟩
  · rintro (hmerged | hmerged | ⟨-, -, hmerged⟩)
    · cases hmerged
    · cases hmerged
    · cases hless'.symm.trans hmerged
  · rintro ⟨hne, -, -⟩
    exact hne rfl

/-- The float 2⁵³ equals two integers, and these differ. -/
theorem compare_merged :
    (int 9007199254740993).compare (float (.ofBits 0x4340000000000000)) = some .eq ∧
      (float (.ofBits 0x4340000000000000)).compare (int 9007199254740992) = some .eq ∧
      (int 9007199254740993).compare (int 9007199254740992) = some .gt ∧
      (int 9007199254740993).equivalent (float (.ofBits 0x4340000000000000)) ∧
      (float (.ofBits 0x4340000000000000)).equivalent (int 9007199254740992) ∧
      ¬ (int 9007199254740993).equivalent (int 9007199254740992) := by
  decide +kernel

end Value

end FacetedGraph
