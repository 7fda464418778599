import FacetedGraph.Query.Text
import Mathlib.Tactic.Common

/-!
# Parameters named in a text

In the text of a query a dollar sign announces the name of a parameter. A template says which
parameters it refers to; read from its text, they are the same ones, provided that no fixed piece
has a dollar sign and that no name runs on into the piece behind it.

## Main definitions

* `dollarNames` — the names that follow a dollar sign in a text.
* `Template.Delimited` — templates from whose texts the references can be read.

## Main statements

* `Template.dollarNames_render` — the names in the text of a template are its references.
* `Template.Delimited.append`, `Template.delimited_joined` — how templates are put together.
-/

namespace FacetedGraph

/-! ## Fixed texts and names -/

/-- Texts whose characters pass a check. -/
def Passes (check : List Char → Bool) (s : String) : Prop := check s.toList = true

/-- A literal passes a check where its characters do. -/
theorem passes_ofList {check : List Char → Bool} {cs : List Char} (h : check cs = true) :
    Passes check (String.ofList cs) := by
  rwa [Passes, String.toList_ofList]

/-- Texts without a dollar sign. -/
abbrev Dollarless : String → Prop := Passes fun cs => !cs.contains '$'

/-- Texts that can be names of parameters. -/
abbrev Nameable : String → Prop := Passes fun cs => cs.all Key.isLetterOrDigit

/-- Texts that begin with a character that no name goes on with. -/
abbrev Breaks : String → Prop := Passes fun cs => cs.head?.any fun c => !Key.isLetterOrDigit c

section Characters

variable {s t : String}

theorem dollarless_iff : Dollarless s ↔ '$' ∉ s.toList := by
  simp [Passes]

theorem nameable_iff : Nameable s ↔ ∀ c ∈ s.toList, Key.isLetterOrDigit c = true :=
  List.all_eq_true

theorem breaks_iff : Breaks s ↔ ∃ c, s.toList.head? = some c ∧ Key.isLetterOrDigit c = false := by
  simp [Passes, Option.any_eq_true]

theorem dollarless_append : Dollarless (s ++ t) ↔ Dollarless s ∧ Dollarless t := by
  simp only [dollarless_iff, String.toList_append, List.mem_append, not_or]

theorem Nameable.append (hs : Nameable s) (ht : Nameable t) : Nameable (s ++ t) := by
  rw [nameable_iff] at hs ht ⊢
  intro c hc
  rw [String.toList_append] at hc
  exact (List.mem_append.1 hc).elim (hs c) (ht c)

theorem Breaks.append (h : Breaks s) : Breaks (s ++ t) := by
  obtain ⟨c, hc, hbreak⟩ := breaks_iff.1 h
  exact breaks_iff.2 ⟨c, by rw [String.toList_append, List.head?_append, hc]; rfl, hbreak⟩

theorem Nameable.dollarless (h : Nameable s) : Dollarless s :=
  dollarless_iff.2 fun hmem => absurd (nameable_iff.1 h '$' hmem) (by decide)

end Characters

/-! ## Names behind dollar signs -/

/-- The names that follow a dollar sign in a text, each as far as letters, digits and underscores
go. -/
def dollarNames : List Char → List String
  | [] => []
  | c :: rest =>
    if c = '$' then String.ofList (rest.takeWhile Key.isLetterOrDigit) :: dollarNames rest
    else dollarNames rest

theorem dollarNames_append {text : List Char} (h : '$' ∉ text) (rest : List Char) :
    dollarNames (text ++ rest) = dollarNames rest := by
  induction text with
  | nil => rfl
  | cons c text ih =>
    rw [List.mem_cons, not_or] at h
    rw [List.cons_append, dollarNames, if_neg (Ne.symm h.1), ih h.2]

/-- A name is read to its end where what comes next cannot belong to it. -/
theorem dollarNames_reference {name : String} (hname : Nameable name) {rest : List Char}
    (hrest : ∀ c ∈ rest.head?, Key.isLetterOrDigit c = false) :
    dollarNames ('$' :: (name.toList ++ rest)) = name :: dollarNames rest := by
  have hstop : rest.takeWhile Key.isLetterOrDigit = [] := by
    cases rest with
    | nil => rfl
    | cons c rest => rw [List.takeWhile_cons, hrest c rfl, if_neg Bool.false_ne_true]
  rw [dollarNames, if_pos rfl, List.takeWhile_append_of_pos (nameable_iff.1 hname), hstop,
    List.append_nil, String.ofList_toList, dollarNames_append (dollarless_iff.1 hname.dollarless)]

example : dollarNames "SKIP $offset LIMIT $limit".toList = ["offset", "limit"] := by
  decide

namespace Template

open Piece (fixed parameter)

variable {t u : Template} {ts : List Template} {s name : String}

/-! ## Texts and references -/

theorem toList_render_cons (p : Piece) (t : Template) :
    (render (p :: t)).toList = p.render.toList ++ t.render.toList := by
  simp [render, String.toList_join]

theorem references_append (t u : Template) : (t ++ u).references = t.references ++ u.references :=
  List.filterMap_append

theorem mem_references_joined :
    name ∈ (joined s ts).references ↔ ∃ t ∈ ts, name ∈ t.references := by
  fun_induction joined s ts with
  | case1 => simp [references]
  | case2 t => simp
  | case3 t ts hts ih =>
    have hsep (rest : Template) : references (fixed s :: rest) = references rest := rfl
    rw [references_append, List.mem_append, hsep, ih]
    simp only [List.mem_cons, exists_eq_or_imp]

/-! ## Reading references from a text -/

/-- Whether a name in front of a template ends there. -/
def Apart : Template → Prop
  | fixed s :: _ => Breaks s
  | _ => True

/-- Whether dollar signs stand only in front of names, and names end where their pieces do. -/
def Delimited : Template → Prop
  | [] => True
  | fixed s :: rest => Dollarless s ∧ Delimited rest
  | parameter name :: rest => Nameable name ∧ Apart rest ∧ Delimited rest

theorem Apart.head (h : t.Apart) :
    ∀ c ∈ t.render.toList.head?, Key.isLetterOrDigit c = false := by
  intro c hc
  cases t with
  | nil => cases hc
  | cons p rest =>
    rw [toList_render_cons, List.head?_append] at hc
    cases p with
    | fixed s =>
      obtain ⟨d, hd, hbreak⟩ := breaks_iff.1 h
      rw [Piece.render, hd] at hc
      cases hc
      exact hbreak
    | parameter name =>
      have hdollar : (parameter name).render.toList.head? = some '$' := by simp [Piece.render]
      rw [hdollar] at hc
      cases hc
      decide

theorem dollarNames_render (h : t.Delimited) : dollarNames t.render.toList = t.references := by
  induction t with
  | nil => rfl
  | cons p rest ih =>
    rw [toList_render_cons]
    cases p with
    | fixed s =>
      obtain ⟨hs, hrest⟩ := h
      exact (dollarNames_append (dollarless_iff.1 hs) _).trans (ih hrest)
    | parameter name =>
      obtain ⟨hname, hapart, hrest⟩ := h
      have htext : (parameter name).render.toList = '$' :: name.toList := by
        simp [Piece.render]
      rw [htext, List.cons_append, dollarNames_reference hname hapart.head, ih hrest]
      rfl

/-! ## Putting templates together -/

theorem Apart.append (ht : t.Apart) (hu : u.Apart) : (t ++ u).Apart := by
  obtain _ | ⟨_ | _, _⟩ := t
  · exact hu
  · exact ht
  · trivial

theorem Delimited.append (ht : t.Delimited) (hu : u.Delimited) (hapart : u.Apart) :
    (t ++ u).Delimited := by
  induction t with
  | nil => exact hu
  | cons p rest ih =>
    cases p with
    | fixed s => exact ⟨ht.1, ih ht.2⟩
    | parameter name => exact ⟨ht.1, ht.2.1.append hapart, ih ht.2.2⟩

theorem delimited_joined (hs : Dollarless s) (hbreaks : Breaks s) (h : ∀ t ∈ ts, t.Delimited) :
    (joined s ts).Delimited := by
  fun_induction joined s ts with
  | case1 => trivial
  | case2 t => exact h t List.mem_cons_self
  | case3 t ts hts ih =>
    refine (h t List.mem_cons_self).append ⟨hs, ih fun u hu => ?_⟩ hbreaks
    exact h u (List.mem_cons_of_mem _ hu)

end Template

end FacetedGraph
