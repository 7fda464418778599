import FacetedGraph.Query.Key
import Mathlib.Logic.Function.Basic

/-!
# Keys are read back

What is read from the written form of a key is the key, to the last character, whatever text comes
behind it. So no key runs on into that text, none ends before its own end, and two keys are never
written alike.

## Main definitions

* `Key.Closes` — texts that do not go on with an identifier.

## Main statements

* `Key.readQuoted_doubleQuotes` — a quoted key is read up to its closing quote.
* `Key.read_escape` — a key is read back from its written form.
* `Key.escaped_unmistakable` — the same on strings, with what follows for two keys.
-/

namespace FacetedGraph.Key

variable {c : Char} {key rest text : List Char}

/-- Texts that begin neither with a quote nor with what an identifier goes on with. -/
def Closes (rest : List Char) : Prop :=
  ∀ c ∈ rest.head?, c ≠ quote ∧ isLetterOrDigit c = false

theorem quote_ne_of_isLetter (h : isLetter c = true) : c ≠ quote := by
  rintro rfl
  revert h
  decide

/-! ## Quoted identifiers -/

theorem readQuoted_cons (hc : c ≠ quote) (text : List Char) :
    readQuoted (c :: text) = (readQuoted text).map fun p => (c :: p.1, p.2) := by
  cases text with
  | nil => simp [readQuoted, hc]
  | cons d rest => rw [readQuoted, if_neg hc]

theorem readQuoted_quote_quote (text : List Char) :
    readQuoted (quote :: quote :: text) = (readQuoted text).map fun p => (quote :: p.1, p.2) := by
  rw [readQuoted, if_pos rfl, if_pos rfl]

/-- A quote that is not written twice closes the identifier. -/
theorem readQuoted_quote (hrest : Closes rest) : readQuoted (quote :: rest) = some ([], rest) := by
  cases rest with
  | nil => rfl
  | cons d rest => rw [readQuoted, if_pos rfl, if_neg (hrest d rfl).1]

-- The induction is on the key. A quote in it takes two characters of the text, all else one.
theorem readQuoted_doubleQuotes (key : List Char) (hrest : Closes rest) :
    readQuoted (doubleQuotes key ++ quote :: rest) = some (key, rest) := by
  induction key with
  | nil => exact readQuoted_quote hrest
  | cons c cs ih =>
    rw [doubleQuotes]
    by_cases hc : c = quote
    · rw [if_pos hc, List.cons_append, List.cons_append, readQuoted_quote_quote, ih, hc]
      rfl
    · rw [if_neg hc, List.cons_append, readQuoted_cons hc, ih]
      rfl

/-! ## Plain identifiers -/

/-- The longest run of letters and digits ends where the key does. -/
theorem read_plain (hplain : isPlain key = true) (hrest : Closes rest) :
    read (key ++ rest) = some (key, rest) := by
  cases key with
  | nil => cases hplain
  | cons c cs =>
    rw [isPlain, Bool.and_eq_true, List.all_eq_true] at hplain
    obtain ⟨hletter, hall⟩ := hplain
    have hnone : rest.takeWhile isLetterOrDigit = [] ∧ rest.dropWhile isLetterOrDigit = rest := by
      cases rest with
      | nil => exact ⟨rfl, rfl⟩
      | cons d rest =>
        have hd : isLetterOrDigit d = false := (hrest d rfl).2
        exact ⟨List.takeWhile_cons_of_neg (by simp [hd]), List.dropWhile_cons_of_neg (by simp [hd])⟩
    rw [List.cons_append, read, if_neg (quote_ne_of_isLetter hletter), if_pos hletter,
      List.takeWhile_append_of_pos hall, List.dropWhile_append_of_pos hall, hnone.1, hnone.2,
      List.append_nil]

/-! ## Written forms -/

theorem read_escape (key : List Char) (hrest : Closes rest) :
    read (escape key ++ rest) = some (key, rest) := by
  rw [escape]
  split
  case isTrue hplain => exact read_plain hplain hrest
  case isFalse =>
    rw [List.cons_append, List.append_assoc, List.singleton_append, read, if_pos rfl]
    exact readQuoted_doubleQuotes key hrest

theorem closes_nil : Closes [] := nofun

theorem escape_injective : Function.Injective escape := by
  intro key other h
  have hkey := read_escape key closes_nil
  rw [h, read_escape other closes_nil] at hkey
  exact (Prod.mk.inj (Option.some.inj hkey)).1.symm

/-- One identifier read from the written form of a key and whatever closes it is just the key, and
leaves just the rest. So different keys are written differently. -/
theorem escaped_unmistakable (key : String) :
    (∀ rest : String, Closes rest.toList →
      read (escaped key ++ rest).toList = some (key.toList, rest.toList)) ∧
    ∀ other : String, other ≠ key → escaped other ≠ escaped key := by
  refine ⟨fun rest hrest => ?_, fun other hne heq => hne ?_⟩
  · rw [String.toList_append, escaped, String.toList_ofList]
    exact read_escape key.toList hrest
  · have hlists := congrArg String.toList heq
    rw [escaped, escaped, String.toList_ofList, String.toList_ofList] at hlists
    exact String.toList_inj.1 (escape_injective hlists)

/-- A key that tries to close its own quotes is still one identifier. -/
theorem escaped_unmistakable_hostile :
    Closes " IN $p".toList ∧
      read (escaped "a\x60 OR true //\x60\x60" ++ " IN $p").toList =
        some ("a\x60 OR true //\x60\x60".toList, " IN $p".toList) ∧
      "a" ≠ "a\x60 OR true //\x60\x60" ∧
      escaped "a" ≠ escaped "a\x60 OR true //\x60\x60" := by
  have hcloses : Closes " IN $p".toList := by
    rintro c hc
    obtain rfl := Option.some.inj (hc : some ' ' = some c)
    decide
  have hne : "a" ≠ "a\x60 OR true //\x60\x60" := by decide
  obtain ⟨hread, hother⟩ := escaped_unmistakable "a\x60 OR true //\x60\x60"
  exact ⟨hcloses, hread _ hcloses, hne, hother _ hne⟩

end FacetedGraph.Key
