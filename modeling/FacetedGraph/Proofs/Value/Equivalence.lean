import FacetedGraph.Proofs.Value.Plain
import FacetedGraph.Value.Compare

/-!
# Values that equal themselves

Equality as queries have it is not reflexive: null equals nothing and NaN differs from itself, and
so does whatever has NaN inside. A value that equals any value at all equals itself, though, and so
does every plain value but null.

## Main statements

* `Value.equivalent_self_of_equivalent` — what equals something equals itself.
* `Value.Plain.equivalent_self` — plain values other than null equal themselves.
-/

namespace FacetedGraph

namespace Binary64

variable {x y : Binary64}

theorem compare_self (h : x ≠ nan) : x.compare x = some .eq := by
  cases x with
  | nan => exact absurd rfl h
  | signed negative m => exact congrArg some Std.ReflCmp.compare_self

/-- What has a place in the order equals itself. -/
theorem compare_self_of_compare {o : Ordering} (h : x.compare y = some o) :
    x.compare x = some .eq :=
  compare_self (by rintro rfl; cases h)

theorem same_self (h : x.same y = true) : x.same x = true :=
  beq_iff_eq.2 (compare_self_of_compare (beq_iff_eq.1 h))

end Binary64

namespace Value

mutual

-- The recursion is that of the comparison, over the first value. Values of different kinds are
-- never the same, so those pairs need no case.
/-- What is the same as something is the same as itself. -/
theorem same_self : ∀ {a b : Value}, a.same b = true → a.same a = true
  | null, _, _ => rfl
  | bool a, _, _ => beq_self_eq_true a
  | int a, _, _ => beq_self_eq_true a
  | string a, _, _ => beq_self_eq_true a
  | float _, float _, h => Binary64.same_self h
  | list _, list _, h => sameItems_self h
  | map _, map _, h => sameFields_self h
  | node _, node _, h => sameNode_self h
  | relationship _, relationship _, h => sameRelationship_self h
  | path _, path _, h => samePath_self h
termination_by structural a => a

theorem sameItems_self : ∀ {as bs : List Value}, sameItems as bs = true → sameItems as as = true
  | [], _, _ => rfl
  | _ :: _, _ :: _, h => by
    rw [sameItems, Bool.and_eq_true] at h ⊢
    exact ⟨same_self h.1, sameItems_self h.2⟩
termination_by structural as => as

theorem sameFields_self : ∀ {as bs : List (String × Value)},
    sameFields as bs = true → sameFields as as = true
  | [], _, _ => rfl
  | (_, _) :: _, (_, _) :: _, h => by
    rw [sameFields, Bool.and_eq_true, Bool.and_eq_true] at h ⊢
    exact ⟨⟨beq_self_eq_true _, same_self h.1.2⟩, sameFields_self h.2⟩
termination_by structural as => as

theorem sameNode_self : ∀ {a b : NodeOf Value}, sameNode a b = true → sameNode a a = true
  | ⟨_, _, _⟩, ⟨_, _, _⟩, h => by
    rw [sameNode, Bool.and_eq_true, Bool.and_eq_true] at h ⊢
    exact ⟨⟨beq_self_eq_true _, beq_self_eq_true _⟩, sameFields_self h.2⟩
termination_by structural a => a

theorem sameRelationship_self : ∀ {a b : RelationshipOf Value},
    sameRelationship a b = true → sameRelationship a a = true
  | ⟨_, _, _, _, _⟩, ⟨_, _, _, _, _⟩, h => by
    simp only [sameRelationship, Bool.and_eq_true, beq_self_eq_true, true_and] at h ⊢
    exact sameFields_self h.2
termination_by structural a => a

theorem sameNodes_self : ∀ {as bs : List (NodeOf Value)},
    sameNodes as bs = true → sameNodes as as = true
  | [], _, _ => rfl
  | _ :: _, _ :: _, h => by
    rw [sameNodes, Bool.and_eq_true] at h ⊢
    exact ⟨sameNode_self h.1, sameNodes_self h.2⟩
termination_by structural as => as

theorem sameRelationships_self : ∀ {as bs : List (RelationshipOf Value)},
    sameRelationships as bs = true → sameRelationships as as = true
  | [], _, _ => rfl
  | _ :: _, _ :: _, h => by
    rw [sameRelationships, Bool.and_eq_true] at h ⊢
    exact ⟨sameRelationship_self h.1, sameRelationships_self h.2⟩
termination_by structural as => as

theorem samePath_self : ∀ {a b : PathOf Value}, samePath a b = true → samePath a a = true
  | ⟨_, _⟩, ⟨_, _⟩, h => by
    rw [samePath, Bool.and_eq_true] at h ⊢
    exact ⟨sameNodes_self h.1, sameRelationships_self h.2⟩
termination_by structural a => a

end

/-- Whether a value equals itself is a matter of sameness, null aside. -/
theorem equivalent_self_eq {a : Value} (h : a ≠ .null) : a.equivalent a = a.same a := by
  cases a with
  | null => exact absurd rfl h
  | int n =>
    have hsame : same (int n) (int n) = true := beq_self_eq_true n
    rw [hsame]
    exact beq_iff_eq.2 (congrArg some Std.ReflCmp.compare_self)
  | _ => rfl

/-- Values that are no numbers are equivalent only when they are the same. -/
theorem same_of_equivalent {a b : Value} (hnumber : a.isNumber = false)
    (h : a.equivalent b = true) : a.same b = true := by
  rw [equivalent, hnumber, Bool.false_and, if_neg Bool.false_ne_true] at h
  split at h
  case isTrue => cases h
  case isFalse => exact h

/-- What equals something equals itself. -/
theorem equivalent_self_of_equivalent {a b : Value} (h : a.equivalent b = true) :
    a.equivalent a = true := by
  have hne : a ≠ .null := by
    rintro rfl
    cases h
  rw [equivalent_self_eq hne]
  cases a with
  | null => exact absurd rfl hne
  | int n => exact beq_self_eq_true n
  | float x =>
    cases b with
    | int n => exact beq_iff_eq.2 (Binary64.compare_self_of_compare (beq_iff_eq.1 h))
    | float y => exact Binary64.same_self h
    | _ => cases h
  | _ => exact same_self (same_of_equivalent rfl h)

namespace Plain

theorem sameItems_self {items : List Value} (h : ∀ v ∈ items, v.same v = true) :
    sameItems items items = true := by
  induction items with
  | nil => rfl
  | cons v rest ih =>
    obtain ⟨hv, hrest⟩ := List.forall_mem_cons.1 h
    rw [sameItems, hv, ih hrest]
    rfl

theorem sameFields_self {entries : List (String × Value)}
    (h : ∀ e ∈ entries, e.2.same e.2 = true) : sameFields entries entries = true := by
  induction entries with
  | nil => rfl
  | cons e rest ih =>
    obtain ⟨he, hrest⟩ := List.forall_mem_cons.1 h
    rw [sameFields, beq_self_eq_true, he, ih hrest]
    rfl

theorem same_self {v : Value} (h : v.Plain) : v.same v = true := by
  induction h with
  | null => rfl
  | bool b => exact beq_self_eq_true b
  | int n => exact beq_self_eq_true n
  | string s => exact beq_self_eq_true s
  | @float x hfinite =>
    have hx : x ≠ .nan := by
      rintro rfl
      cases hfinite
    exact beq_iff_eq.2 (Binary64.compare_self hx)
  | list _ ih => exact sameItems_self ih
  | map _ ih => exact sameFields_self ih

theorem equivalent_self {v : Value} (h : v.Plain) (hne : v ≠ .null) : v.equivalent v = true :=
  (equivalent_self_eq hne).trans h.same_self

end Plain

end Value

end FacetedGraph
