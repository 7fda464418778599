import FacetedGraph.Error
import FacetedGraph.Proofs.Text.Blank
import FacetedGraph.Proofs.Text.Numeral
import Mathlib.Logic.Function.Basic

/-!
# Identities and their texts

Nodes and relationships are read alike. A text is taken for an identity just if, blanks at its ends
aside, it is a numeral that fits in 64 bits, behind at most one plus sign; every other is refused.

## Main definitions

* `Names` — texts and the number they name.
* `ReadsExactly` — how a kind of identities is read and written.

## Main statements

* `NodeId.text_injective`, `RelationshipId.text_injective` — different nodes have different texts,
  and so have different relationships.
* `parseIdentity_eq_some_iff` — which texts name which number.
* `identities_read_exactly` — both kinds of identities are read just from the texts that name them.
-/

namespace FacetedGraph

variable {s : String} {n : Nat}

theorem numberText_injective {m n : Nat} (h : numberText m = numberText n) : m = n := by
  have hdigits : Nat.toDigits 10 m = Nat.toDigits 10 n := String.ofList_injective h
  rw [← Nat.ofDigitChars_ten_toDigits (n := m), hdigits, Nat.ofDigitChars_ten_toDigits]

theorem NodeId.text_injective {a b : NodeId} (h : a.text = b.text) : a = b :=
  congrArg NodeId.mk (numberText_injective h)

theorem RelationshipId.text_injective {a b : RelationshipId} (h : a.text = b.text) : a = b :=
  congrArg RelationshipId.mk (numberText_injective h)

/-! ## Texts that name a number -/

/-- `Names s n` if, blanks at its ends aside, `s` is a numeral of `n` behind at most one plus sign,
and `n` fits in 64 bits. -/
def Names (s : String) (n : Nat) : Prop :=
  ∃ core, Trimmed s.toList core ∧ Signed core n ∧ n < UInt64.size

theorem parseIdentity_eq_some_iff : parseIdentity s = some n ↔ Names s n := by
  rw [parseIdentity, readIdentity_eq_some_iff, Names]
  simp only [← trimBlank_eq_iff, exists_eq_left']

instance (s : String) (n : Nat) : Decidable (Names s n) :=
  decidable_of_iff _ parseIdentity_eq_some_iff

theorem parseIdentity_eq_none_iff : parseIdentity s = none ↔ ∀ n, ¬ Names s n := by
  simp only [Option.eq_none_iff_forall_ne_some, ne_eq, parseIdentity_eq_some_iff]

theorem isBlank_of_isDigit {c : Char} (h : isDigit c = true) : isBlank c = false := by
  rw [isDigit_iff_toNat] at h
  simp only [isBlank, Bool.or_eq_false_iff, Bool.and_eq_false_iff, decide_eq_false_iff_not,
    beq_eq_false_iff_ne]
  omega

/-- A numeral is all that stands between the blanks around it. -/
theorem Denotes.trimmed {before digits after : List Char} (h : Denotes digits n)
    (hbefore : AllBlank before) (hafter : AllBlank after) :
    Trimmed (before ++ digits ++ after) digits where
  between := ⟨before, after, hbefore, hafter, rfl⟩
  head c hc := isBlank_of_isDigit (h.isDigit_of_mem c (List.mem_of_mem_head? hc))
  last c hc := isBlank_of_isDigit (h.isDigit_of_mem c (List.mem_of_mem_getLast? hc))

theorem names_numberText {before after : String} (hn : n < UInt64.size)
    (hbefore : AllBlank before.toList) (hafter : AllBlank after.toList) :
    Names (before ++ numberText n ++ after) n := by
  refine ⟨numeral n, ?_, .bare (denotes_numeral n), hn⟩
  rw [String.toList_append, String.toList_append, numberText, String.toList_ofList]
  exact (denotes_numeral n).trimmed hbefore hafter

/-! ## Kinds of identities -/

/-- Identities with a number and a text are read exactly by `parse`, which has `fault` for what it
refuses. -/
structure ReadsExactly {Id : Type} (number : Id → Nat) (text : Id → String)
    (parse : String → Except Error Id) (fault : String → ParameterFault) : Prop where
  /-- What a text names is read from it, and nothing else. -/
  ok_iff : ∀ s id, parse s = .ok id ↔ Names s (number id)
  /-- A text is refused just if it names nothing, and always as an invalid parameter. -/
  error_iff : ∀ s e, parse s = .error e ↔ e = .invalidParameter (fault s) ∧ ∀ n, ¬ Names s n
  /-- What is written of an identity is read back, whatever blanks are around it. -/
  parse_text : ∀ id before after, number id < UInt64.size → AllBlank before.toList →
    AllBlank after.toList → parse (before ++ text id ++ after) = .ok id
  /-- No two identities are written alike. -/
  text_injective : Function.Injective text

/-- Both kinds of identities are a number under another name, so one argument serves both. -/
theorem readsExactly_of_parseIdentity {Id : Type} {number : Id → Nat} {text : Id → String}
    {parse : String → Except Error Id} {fault : String → ParameterFault} (mk : Nat → Id)
    (hmk : ∀ n id, mk n = id ↔ n = number id) (htext : ∀ id, text id = numberText (number id))
    (hparse : ∀ s, parse s = (parseIdentity s).elim (.error (.invalidParameter (fault s)))
      fun n => .ok (mk n)) :
    ReadsExactly number text parse fault := by
  have hok : ∀ s id, parse s = .ok id ↔ Names s (number id) := by
    intro s id
    rw [hparse, ← parseIdentity_eq_some_iff]
    cases parseIdentity s with
    | none => simp
    | some n => simp [hmk]
  refine ⟨hok, fun s e => ?_, fun id before after hid hbefore hafter => ?_, fun a b h => ?_⟩
  · rw [hparse, ← parseIdentity_eq_none_iff]
    cases parseIdentity s with
    | none => simp [eq_comm]
    | some n => simp
  · rw [hok, htext]
    exact names_numberText hid hbefore hafter
  · rw [htext, htext] at h
    exact ((hmk _ a).2 rfl).symm.trans ((hmk _ b).2 (numberText_injective h))

/-- Nodes and relationships are read from just the texts that name them, and from what is written of
them between any blanks. -/
theorem identities_read_exactly :
    ReadsExactly NodeId.number NodeId.text NodeId.parse .notNodeIdentity ∧
      ReadsExactly RelationshipId.number RelationshipId.text RelationshipId.parse
        .notRelationshipIdentity := by
  constructor
  · refine readsExactly_of_parseIdentity NodeId.mk (fun n id => ?_) (fun _ => rfl) fun s => ?_
    · cases id
      rw [NodeId.mk.injEq]
    · rw [NodeId.parse]
      cases parseIdentity s <;> rfl
  · refine readsExactly_of_parseIdentity RelationshipId.mk (fun n id => ?_) (fun _ => rfl)
      fun s => ?_
    · cases id
      rw [RelationshipId.mk.injEq]
    · rw [RelationshipId.parse]
      cases parseIdentity s <;> rfl

/-- The largest identity is read from between blanks of several kinds, one above it is refused, and
zeros may stand between a sign and what counts. -/
theorem identities_read_exactly_padded :
    AllBlank "\u2003\t".toList ∧ AllBlank "\u00a0\n".toList ∧
      NodeId.parse ("\u2003\t" ++ NodeId.text ⟨18446744073709551615⟩ ++ "\u00a0\n") =
        .ok ⟨18446744073709551615⟩ ∧
      NodeId.parse "18446744073709551616" =
        .error (.invalidParameter (.notNodeIdentity "18446744073709551616")) ∧
      Names "\u3000+007" 7 ∧ RelationshipId.parse "\u3000+007" = .ok ⟨7⟩ := by
  obtain ⟨hnodes, hrelationships⟩ := identities_read_exactly
  have hbefore : AllBlank "\u2003\t".toList := by decide
  have hafter : AllBlank "\u00a0\n".toList := by decide
  have hnone : ∀ n, ¬ Names "18446744073709551616" n := parseIdentity_eq_none_iff.1 (by decide)
  have hnames : Names "\u3000+007" 7 := by decide
  exact ⟨hbefore, hafter, hnodes.parse_text _ _ _ (by decide) hbefore hafter,
    (hnodes.error_iff _ _).2 ⟨rfl, hnone⟩, hnames, (hrelationships.ok_iff _ ⟨7⟩).2 hnames⟩

end FacetedGraph
