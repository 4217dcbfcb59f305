import Connexive.Proofs.Domain.Lookup
import Connexive.Proofs.Formula.Truth
import Mathlib.Algebra.Group.Nat.Even
import Mathlib.Algebra.Ring.Parity

namespace Connexive.Formula

/-! How the truth of a formula moves with that of its atoms. Below an even number of negations an
atom can only raise it, below an odd number only lower it. An implication is true when both of its
sides are and its topics do not depend on the object, so neither side counts as a negation.
-/

/-- An atom of a formula, with the number of negations it stands below. -/
structure Leaf where
  name : String
  negations : Nat
  deriving DecidableEq

def Leaf.negated (leaf : Leaf) : Leaf :=
  { leaf with negations := leaf.negations + 1 }

/-- The atoms from left to right. -/
def leaves : Formula → List Leaf
  | atom name => [⟨name, 0⟩]
  | not inner => inner.leaves.map Leaf.negated
  | and left right => left.leaves ++ right.leaves
  | or left right => left.leaves ++ right.leaves
  | implies antecedent consequent => antecedent.leaves ++ consequent.leaves

/-- From the first object to the second, no atom below an even number of negations turns false and
none below an odd number turns true. -/
def Rises (formula : Formula) (object other : Object) : Prop :=
  ∀ leaf ∈ formula.leaves,
    (Even leaf.negations → object.holds leaf.name = true → other.holds leaf.name = true) ∧
      (Odd leaf.negations → other.holds leaf.name = true → object.holds leaf.name = true)

variable {object other : Object} {formula left right inner : Formula} {name predicate : String}

theorem rises_atom :
    (atom name).Rises object other ↔ (object.holds name = true → other.holds name = true) := by
  simp [Rises, leaves]

theorem rises_append (parts : formula.leaves = left.leaves ++ right.leaves) :
    formula.Rises object other ↔ left.Rises object other ∧ right.Rises object other := by
  simp only [Rises, parts, List.forall_mem_append]

/-- A negation turns the two objects round. -/
theorem rises_not : (not inner).Rises object other ↔ inner.Rises other object := by
  simp only [Rises, leaves, List.forall_mem_map, Leaf.negated, Nat.even_add_one, Nat.odd_add_one,
    Nat.not_even_iff_odd, Nat.not_odd_iff_even]
  exact forall₂_congr fun _ _ => and_comm

theorem Rises.truth (rises : formula.Rises object other) (holds : formula.truth object = true) :
    formula.truth other = true := by
  induction formula generalizing object other with
  | atom name => exact rises_atom.mp rises holds
  | not inner innerIH =>
      simp only [Formula.truth, Bool.not_eq_true', ← Bool.not_eq_true] at holds ⊢
      exact mt (innerIH (rises_not.mp rises)) holds
  | and left right leftIH rightIH =>
      obtain ⟨leftRises, rightRises⟩ := (rises_append rfl).mp rises
      simp only [Formula.truth, Bool.and_eq_true] at holds ⊢
      exact ⟨leftIH leftRises holds.1, rightIH rightRises holds.2⟩
  | or left right leftIH rightIH =>
      obtain ⟨leftRises, rightRises⟩ := (rises_append rfl).mp rises
      simp only [Formula.truth, Bool.or_eq_true] at holds ⊢
      exact holds.imp (leftIH leftRises) (rightIH rightRises)
  | implies antecedent consequent antecedentIH consequentIH =>
      obtain ⟨antecedentRises, consequentRises⟩ := (rises_append rfl).mp rises
      obtain ⟨antecedentHolds, consequentHolds, onTopic⟩ := truth_implies_iff.mp holds
      exact truth_implies_iff.mpr ⟨antecedentIH antecedentRises antecedentHolds,
        consequentIH consequentRises consequentHolds, onTopic⟩

theorem rises_state_true
    (even : ∀ leaf ∈ formula.leaves,
      Text.lower leaf.name = Text.lower predicate → Even leaf.negations) :
    formula.Rises object (object.state predicate true) := by
  intro leaf member
  rw [Object.holds_state]
  by_cases about : Text.lower leaf.name = Text.lower predicate
  · have notOdd : ¬ Odd leaf.negations := Nat.not_odd_iff_even.mpr (even leaf member about)
    simp [about, notOdd]
  · simp [about]

theorem rises_of_state_true
    (odd : ∀ leaf ∈ formula.leaves,
      Text.lower leaf.name = Text.lower predicate → Odd leaf.negations) :
    formula.Rises (object.state predicate true) object := by
  intro leaf member
  rw [Object.holds_state]
  by_cases about : Text.lower leaf.name = Text.lower predicate
  · have notEven : ¬ Even leaf.negations := Nat.not_even_iff_odd.mpr (odd leaf member about)
    simp [about, notEven]
  · simp [about]

/-- To state that a predicate holds never makes a true formula false where every atom about it
stands below an even number of negations, and never makes a false one true where every such number
is odd. -/
theorem value_after_stating_true (object : Object) (predicate : String) (formula : Formula) :
    let told := object.state predicate true
    ((∀ leaf ∈ formula.leaves,
        Text.lower leaf.name = Text.lower predicate → Even leaf.negations) →
      (formula.evaluate object).value = true → (formula.evaluate told).value = true) ∧
    ((∀ leaf ∈ formula.leaves,
        Text.lower leaf.name = Text.lower predicate → Odd leaf.negations) →
      (formula.evaluate object).value = false → (formula.evaluate told).value = false) := by
  intro told
  rw [evaluate_value, evaluate_value]
  constructor
  · intro even
    exact (rises_state_true even).truth
  · intro odd fails
    have rises : formula.Rises told object := rises_of_state_true odd
    rw [← Bool.not_eq_true] at fails ⊢
    exact mt rises.truth fails

/-- An antecedent is no negation: the predicate stands below two of them in the antecedent of the
first formula and below one in that of the second. -/
theorem value_after_stating_true_in_antecedent :
    let object : Object := ⟨"x", [("q", false)]⟩
    let other : Object := ⟨"y", [("q", true)]⟩
    let rising : Formula :=
      .implies (.not (.and (.not (.atom "P")) (.atom "q"))) (.or (.atom "p") (.not (.atom "q")))
    let falling : Formula := .not (.implies (.or (.atom "P") (.atom "q")) (.atom "q"))
    (∀ leaf ∈ rising.leaves, Text.lower leaf.name = Text.lower "p" → Even leaf.negations) ∧
      (rising.evaluate object).value = true ∧
      (rising.evaluate (object.state "p" true)).value = true ∧
      (∀ leaf ∈ falling.leaves, Text.lower leaf.name = Text.lower "p" → Odd leaf.negations) ∧
      (falling.evaluate other).value = false ∧
      (falling.evaluate (other.state "p" true)).value = false := by
  intro object other rising falling
  have even : ∀ leaf ∈ rising.leaves,
      Text.lower leaf.name = Text.lower "p" → Even leaf.negations := by decide
  have odd : ∀ leaf ∈ falling.leaves,
      Text.lower leaf.name = Text.lower "p" → Odd leaf.negations := by decide
  have holds : (rising.evaluate object).value = true := by decide
  have fails : (falling.evaluate other).value = false := by decide
  exact ⟨even, holds, (value_after_stating_true object "p" rising).1 even holds,
    odd, fails, (value_after_stating_true other "p" falling).2 odd fails⟩

end Connexive.Formula
