import FacetedGraph.Text.Numeral
import Mathlib.Data.List.Induction

/-!
# Reading decimal numerals

A numeral stands for a number by the places of its digits, whatever zeros it begins with. It is
read as just that number, and nothing that is no numeral is read.

## Main definitions

* `Denotes` — digits and the number they stand for.
* `Signed` — the same with the plus sign that may come before.

## Main statements

* `readNumeral_eq_some_iff`, `readIdentity_eq_some_iff` — what is read, and as which number.
* `denotes_numeral` — the digits written of a number stand for it.
-/

namespace FacetedGraph

variable {c : Char} {digits text : List Char} {n : Nat}

/-- `Denotes digits n` if `digits` are decimal digits, one or more, that stand for `n`. -/
inductive Denotes : List Char → Nat → Prop
  | digit {d : Nat} : d < 10 → Denotes [d.digitChar] d
  | snoc {digits : List Char} {n d : Nat} :
      Denotes digits n → d < 10 → Denotes (digits ++ [d.digitChar]) (10 * n + d)

/-- `Signed text n` if `text` is a numeral of `n` behind at most one plus sign. -/
inductive Signed : List Char → Nat → Prop
  | bare {digits : List Char} {n : Nat} : Denotes digits n → Signed digits n
  | plus {digits : List Char} {n : Nat} : Denotes digits n → Signed ('+' :: digits) n

/-! ## Single digits -/

theorem digitValue_digitChar {d : Nat} (hd : d < 10) : digitValue d.digitChar = d :=
  Nat.toNat_digitChar_sub_48_of_lt_ten hd

theorem isDigit_iff_toNat : isDigit c = true ↔ 48 ≤ c.toNat ∧ c.toNat ≤ 57 := by
  rw [isDigit, Bool.and_eq_true, decide_eq_true_iff, decide_eq_true_iff]
  rfl

theorem isDigit_iff_digitChar : isDigit c = true ↔ ∃ d < 10, c = d.digitChar := by
  rw [isDigit_iff_toNat]
  constructor
  · rintro ⟨hlow, hhigh⟩
    have hd : c.toNat - 48 < 10 := by omega
    refine ⟨c.toNat - 48, hd, Char.toNat_inj.1 ?_⟩
    rw [Nat.toNat_digitChar_of_lt_ten hd]
    omega
  · rintro ⟨d, hd, rfl⟩
    rw [Nat.toNat_digitChar_of_lt_ten hd]
    omega

/-! ## Runs of digits -/

theorem digitsValue_append_singleton (acc : Nat) (digits : List Char) (c : Char) :
    digitsValue acc (digits ++ [c]) = 10 * digitsValue acc digits + digitValue c := by
  induction digits generalizing acc with
  | nil => rfl
  | cons d digits ih => exact ih _

namespace Denotes

theorem ne_nil (h : Denotes digits n) : digits ≠ [] := by
  cases h with
  | digit => exact List.cons_ne_nil _ _
  | snoc => exact List.append_ne_nil_of_right_ne_nil _ (List.cons_ne_nil _ _)

theorem isDigit_of_mem (h : Denotes digits n) : ∀ c ∈ digits, isDigit c = true := by
  induction h with
  | digit hd =>
    intro c hc
    exact isDigit_iff_digitChar.2 ⟨_, hd, List.mem_singleton.1 hc⟩
  | snoc _ hd ih =>
    intro c hc
    obtain hc | hc := List.mem_append.1 hc
    · exact ih c hc
    · exact isDigit_iff_digitChar.2 ⟨_, hd, List.mem_singleton.1 hc⟩

theorem digitsValue_eq (h : Denotes digits n) : digitsValue 0 digits = n := by
  induction h with
  | digit hd => exact (Nat.zero_add _).trans (digitValue_digitChar hd)
  | snoc _ hd ih => rw [digitsValue_append_singleton, ih, digitValue_digitChar hd]

end Denotes

-- The induction is from the last digit on, as the places of the digits are counted from there.
theorem denotes_digitsValue (hne : digits ≠ []) (hall : ∀ c ∈ digits, isDigit c = true) :
    Denotes digits (digitsValue 0 digits) := by
  induction digits using List.reverseRecOn with
  | nil => exact absurd rfl hne
  | append_singleton digits c ih =>
    obtain ⟨hinit, hlast⟩ := List.forall_mem_append.1 hall
    obtain ⟨d, hd, rfl⟩ := isDigit_iff_digitChar.1 (hlast c (List.mem_singleton_self c))
    rw [digitsValue_append_singleton, digitValue_digitChar hd]
    cases digits with
    | nil =>
      have hvalue : 10 * digitsValue 0 [] + d = d := Nat.zero_add d
      rw [hvalue]
      exact .digit hd
    | cons e digits => exact .snoc (ih (List.cons_ne_nil _ _) hinit) hd

theorem denotes_iff :
    Denotes digits n ↔
      digits ≠ [] ∧ (∀ c ∈ digits, isDigit c = true) ∧ digitsValue 0 digits = n := by
  constructor
  · exact fun h => ⟨h.ne_nil, h.isDigit_of_mem, h.digitsValue_eq⟩
  · rintro ⟨hne, hall, rfl⟩
    exact denotes_digitsValue hne hall

theorem denotes_numeral (n : Nat) : Denotes (numeral n) n := by
  induction n using Nat.strongRecOn with
  | ind n ih =>
    rw [numeral, Nat.toDigits_eq_if (by decide)]
    split
    case isTrue hn => exact .digit hn
    case isFalse hn =>
      have hsnoc := Denotes.snoc (ih (n / 10) (by omega)) (Nat.mod_lt n (by decide))
      rwa [Nat.div_add_mod] at hsnoc

/-! ## Reading -/

theorem readNumeral_eq_some_iff : readNumeral text = some n ↔ Denotes text n := by
  rw [readNumeral, Option.ite_none_right_eq_some, Bool.and_eq_true, Bool.not_eq_true',
    List.isEmpty_eq_false_iff, List.all_eq_true, Option.some.injEq, denotes_iff, and_assoc]

theorem signed_iff : Signed text n ↔ Denotes (dropPlus text) n := by
  constructor
  · rintro (hbare | hplus)
    · rw [dropPlus]
      · exact hbare
      · rintro rest rfl
        exact absurd (hbare.isDigit_of_mem '+' (List.mem_cons_self ..)) (by decide)
    · exact hplus
  · fun_cases dropPlus text with
    | case1 => exact .plus
    | case2 => exact .bare

theorem readIdentity_eq_some_iff :
    readIdentity text = some n ↔ Signed text n ∧ n < UInt64.size := by
  have hfits : n ≤ maxIdentity ↔ n < UInt64.size := by
    rw [maxIdentity, UInt64.size]
    omega
  rw [readIdentity, Option.filter_eq_some_iff, readNumeral_eq_some_iff, ← signed_iff,
    decide_eq_true_iff, hfits]

end FacetedGraph
