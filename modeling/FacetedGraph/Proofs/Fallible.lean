import FacetedGraph.Error
import Mathlib.Tactic.Common

/-!
# Tests that may fail, over lists

A test may end in an error instead of an answer. Over a list on which none does, testing all
entries, keeping those that pass and mapping are what they are without errors.

## Main definitions

* `Answers` — a test ends without error and tells whether a proposition holds.

## Main statements

* `Answers.append`, `Answers.flatMap` — the parts of a list are tested one after the other.
* `filterM_ok`, `mapM_ok`.
* `filterMap_map_eq_self`, `mapM_map_eq_pure` — looking up keys.
-/

namespace FacetedGraph

variable {α β : Type}

def Answers (outcome : Except Error Bool) (p : Prop) : Prop :=
  ∃ b : Bool, outcome = .ok b ∧ (b = true ↔ p)

theorem Answers.congr {outcome : Except Error Bool} {p q : Prop} (h : Answers outcome p)
    (hpq : p ↔ q) : Answers outcome q := by
  obtain ⟨b, hb, hbp⟩ := h
  exact ⟨b, hb, hbp.trans hpq⟩

theorem Answers.eq_ok {outcome : Except Error Bool} {p : Prop} [Decidable p]
    (h : Answers outcome p) : outcome = .ok (decide p) := by
  obtain ⟨b, rfl, hbp⟩ := h
  rw [Bool.eq_iff_iff.2 (hbp.trans (decide_eq_true_iff).symm)]

/-! ## All entries -/

section All

variable {test : α → Except Error Bool}

theorem Answers.nil : Answers ([].allM test) True := ⟨true, rfl, by simp⟩

theorem Answers.singleton {a : α} {p : Prop} (h : Answers (test a) p) :
    Answers ([a].allM test) p := by
  obtain ⟨b, hb, hbp⟩ := h
  refine ⟨b, ?_, hbp⟩
  cases b <;> simp [List.allM, hb, bind, Except.bind, pure, Except.pure]

theorem Answers.append {as bs : List α} {p q : Prop} (has : Answers (as.allM test) p)
    (hbs : Answers (bs.allM test) q) : Answers ((as ++ bs).allM test) (p ∧ q) := by
  have allM_append (as : List α) : (as ++ bs).allM test =
      (as.allM test).bind fun passed => if passed then bs.allM test else .ok false := by
    induction as with
    | nil => rfl
    | cons a rest ih =>
      simp only [List.cons_append, List.allM, ih, bind]
      cases test a with
      | error e => rfl
      | ok b => cases b <;> rfl
  obtain ⟨b, hb, hbp⟩ := has
  obtain ⟨c, hc, hcq⟩ := hbs
  refine ⟨b && c, ?_, by simp [hbp, hcq]⟩
  rw [allM_append, hb, hc]
  cases b <;> rfl

theorem Answers.flatMap {parts : List β} {part : β → List α} {p : β → Prop}
    (h : ∀ b ∈ parts, Answers ((part b).allM test) (p b)) :
    Answers ((parts.flatMap part).allM test) (∀ b ∈ parts, p b) := by
  induction parts with
  | nil => exact Answers.nil.congr (by simp)
  | cons b rest ih =>
    rw [List.flatMap_cons]
    refine ((h b List.mem_cons_self).append
      (ih fun c hc => h c (List.mem_cons_of_mem _ hc))).congr ?_
    rw [List.forall_mem_cons]

end All

/-! ## Keeping and mapping -/

theorem filterM_ok {test : α → Except Error Bool} {items : List α} {p : α → Prop}
    [DecidablePred p] (h : ∀ a ∈ items, Answers (test a) (p a)) :
    items.filterM test = .ok (items.filter (p ·)) := by
  have aux (acc : List α) :
      items.filterAuxM test acc = .ok ((items.filter (p ·)).reverse ++ acc) := by
    induction items generalizing acc with
    | nil => rfl
    | cons a rest ih =>
      simp only [List.filterAuxM, (h a List.mem_cons_self).eq_ok, bind, Except.bind]
      rw [ih fun b hb => h b (List.mem_cons_of_mem _ hb)]
      by_cases hp : p a <;> simp [hp]
  simp [List.filterM, aux, bind, Except.bind, pure, Except.pure]

theorem mapM_ok {f : α → Except Error β} {items : List α} {g : α → β}
    (h : ∀ a ∈ items, f a = .ok (g a)) : items.mapM f = .ok (items.map g) := by
  induction items with
  | nil => rfl
  | cons a rest ih =>
    rw [List.mapM_cons, h a List.mem_cons_self, ih fun b hb => h b (List.mem_cons_of_mem _ hb)]
    rfl

/-! ## Looking up keys -/

section LookUp

variable {key : α → β} {items : List α}

/-- Looking up the keys of entries gives the entries. -/
theorem filterMap_map_eq_self {find : β → Option α} (h : ∀ a ∈ items, find (key a) = some a) :
    (items.map key).filterMap find = items := by
  induction items with
  | nil => rfl
  | cons a rest ih =>
    rw [List.map_cons, List.filterMap_cons_some (h a List.mem_cons_self),
      ih fun b hb => h b (List.mem_cons_of_mem _ hb)]

theorem mapM_map_eq_pure {m : Type → Type} [Monad m] [LawfulMonad m] {find : β → m α}
    (h : ∀ a ∈ items, find (key a) = pure a) : (items.map key).mapM find = pure items := by
  induction items with
  | nil => rfl
  | cons a rest ih =>
    rw [List.map_cons, List.mapM_cons, h a List.mem_cons_self,
      ih fun b hb => h b (List.mem_cons_of_mem _ hb)]
    simp

end LookUp

end FacetedGraph
