import FacetedGraph.Text.Blank
import Mathlib.Data.List.TakeWhile

/-!
# Blanks at the ends of a text

## Main definitions

* `AllBlank` — texts of blanks alone.
* `Trimmed` — what stands in a text between the blanks at its ends.

## Main statements

* `trimBlank_eq_iff` — `trimBlank` leaves just that, and nothing else can be meant by it.
-/

namespace FacetedGraph

variable {text core before after : List Char}

/-- Texts of blanks alone. -/
def AllBlank (text : List Char) : Prop := ∀ c ∈ text, isBlank c = true

instance (text : List Char) : Decidable (AllBlank text) :=
  decidable_of_iff (text.all isBlank = true) List.all_eq_true

/-- `core` is what stands in `text` between the blanks at its ends. -/
structure Trimmed (text core : List Char) : Prop where
  between : ∃ before after, AllBlank before ∧ AllBlank after ∧ text = before ++ core ++ after
  head : ∀ c ∈ core.head?, isBlank c = false
  last : ∀ c ∈ core.getLast?, isBlank c = false

theorem AllBlank.reverse (h : AllBlank text) : AllBlank text.reverse :=
  fun c hc => h c (List.mem_reverse.1 hc)

/-! ## What is dropped -/

theorem dropBlank_append (hbefore : AllBlank before) (text : List Char) :
    dropBlank (before ++ text) = dropBlank text :=
  List.dropWhile_append_of_pos hbefore

theorem dropBlank_of_head (h : ∀ c ∈ text.head?, isBlank c = false) : dropBlank text = text := by
  cases text with
  | nil => rfl
  | cons c cs => exact List.dropWhile_cons_of_neg (by simp [h c rfl])

theorem isBlank_of_mem_head?_dropBlank {c : Char} (h : c ∈ (dropBlank text).head?) :
    isBlank c = false := by
  have hhead := List.head?_dropWhile_not isBlank text
  rwa [← dropBlank, Option.mem_def.1 h] at hhead

theorem exists_blanks_dropBlank (text : List Char) :
    ∃ before, AllBlank before ∧ text = before ++ dropBlank text :=
  ⟨text.takeWhile isBlank, fun _ hc => List.mem_takeWhile_imp hc,
    List.takeWhile_append_dropWhile.symm⟩

/-! ## What is left -/

theorem trimmed_trimBlank (text : List Char) : Trimmed text (trimBlank text) := by
  obtain ⟨before, hbefore, htext⟩ := exists_blanks_dropBlank text
  obtain ⟨after, hafter, hrest⟩ := exists_blanks_dropBlank (dropBlank text).reverse
  have hsplit : dropBlank text = trimBlank text ++ after.reverse := by
    rw [trimBlank, ← List.reverse_append, ← hrest, List.reverse_reverse]
  refine ⟨⟨before, after.reverse, hbefore, hafter.reverse, ?_⟩, fun c hc => ?_, fun c hc => ?_⟩
  · rw [List.append_assoc, ← hsplit, ← htext]
  · have hhead : c ∈ (dropBlank text).head? := by
      rw [hsplit, List.head?_append, Option.mem_def.1 hc]
      rfl
    exact isBlank_of_mem_head?_dropBlank hhead
  · rw [trimBlank, List.getLast?_reverse] at hc
    exact isBlank_of_mem_head?_dropBlank hc

theorem Trimmed.trimBlank_eq (h : Trimmed text core) : trimBlank text = core := by
  obtain ⟨before, after, hbefore, hafter, rfl⟩ := h.between
  have hlast : ∀ c ∈ core.reverse.head?, isBlank c = false := by
    rw [List.head?_reverse]
    exact h.last
  -- If nothing stands between the blanks, all of the text is dropped from the front.
  have hfront : dropBlank (core ++ after) = core ++ after ∨
      core = [] ∧ dropBlank (core ++ after) = [] := by
    cases core with
    | nil => exact .inr ⟨rfl, List.dropWhile_eq_nil_iff.2 hafter⟩
    | cons c cs => exact .inl (dropBlank_of_head (by simpa using h.head))
  rw [trimBlank, List.append_assoc, dropBlank_append hbefore]
  obtain hfront | ⟨rfl, hfront⟩ := hfront
  · rw [hfront, List.reverse_append, dropBlank_append hafter.reverse, dropBlank_of_head hlast,
      List.reverse_reverse]
  · rw [hfront]
    rfl

/-- A text has just one part between the blanks at its ends, and that is left of it. -/
theorem trimBlank_eq_iff : trimBlank text = core ↔ Trimmed text core := by
  constructor
  · rintro rfl
    exact trimmed_trimBlank text
  · exact Trimmed.trimBlank_eq

end FacetedGraph
