import Connexive.Proofs.Domain.Universal

namespace Connexive.Formula

/-! The theses of connexive logic, as laws of evaluation. No formula implies its negation or is
implied by it, and no antecedent implies both a formula and its negation. What is never true of an
object is never true of a domain either, because a domain without objects satisfies nothing.
-/

def NeverTrue (formula : Formula) : Prop :=
  (∀ object, (formula.evaluate object).value = false) ∧
    ∀ domain : Domain, (domain.forAll formula).value = false

def NeverBothTrue (first second : Formula) : Prop :=
  (∀ object, ¬ ((first.evaluate object).value = true ∧ (second.evaluate object).value = true)) ∧
    ∀ domain : Domain, ¬ ((domain.forAll first).value = true ∧ (domain.forAll second).value = true)

variable {formula other first second antecedent consequent : Formula}

theorem neverBothTrue_of_truth
    (apart : ∀ object, ¬ (first.truth object = true ∧ second.truth object = true)) :
    NeverBothTrue first second := by
  constructor
  · intro object
    rw [evaluate_value, evaluate_value]
    exact apart object
  · rintro domain ⟨firstHolds, secondHolds⟩
    obtain ⟨object, _, both⟩ := Domain.exists_of_forAll firstHolds secondHolds
    exact apart object both

theorem NeverBothTrue.neverTrue (never : NeverBothTrue formula formula) : NeverTrue formula := by
  constructor
  · intro object
    apply Bool.eq_false_iff.mpr
    exact fun holds => never.1 object ⟨holds, holds⟩
  · intro domain
    apply Bool.eq_false_iff.mpr
    exact fun holds => never.2 domain ⟨holds, holds⟩

/-- Formulas of one value deny each other's negation. -/
theorem not_true_with_negation {object : Object}
    (same : first.truth object = second.truth object) :
    ¬ (first.truth object = true ∧ (not second).truth object = true) := by
  rintro ⟨holds, negation⟩
  rw [truth, ← same, holds] at negation
  contradiction

theorem neverTrue_implies (apart : ∀ object,
    ¬ (antecedent.truth object = true ∧ consequent.truth object = true)) :
    NeverTrue (implies antecedent consequent) := by
  apply NeverBothTrue.neverTrue
  apply neverBothTrue_of_truth
  rintro object ⟨holds, _⟩
  obtain ⟨antecedentHolds, consequentHolds, _⟩ := truth_implies_iff.mp holds
  exact apart object ⟨antecedentHolds, consequentHolds⟩

theorem neverTrue_not_implies (alike : Alike other formula) :
    NeverTrue (implies (not formula) other) := by
  apply neverTrue_implies
  rintro object ⟨negation, holds⟩
  exact not_true_with_negation alike.truth_eq ⟨holds, negation⟩

theorem neverTrue_implies_not (alike : Alike other formula) :
    NeverTrue (implies formula (not other)) := by
  apply neverTrue_implies
  intro object
  exact not_true_with_negation alike.truth_eq.symm

theorem neverBothTrue_implies (alike : Alike other consequent) :
    NeverBothTrue (implies antecedent consequent) (implies antecedent (not other)) := by
  apply neverBothTrue_of_truth
  rintro object ⟨first, second⟩
  obtain ⟨_, holds, _⟩ := truth_implies_iff.mp first
  obtain ⟨_, negation, _⟩ := truth_implies_iff.mp second
  exact not_true_with_negation alike.truth_eq.symm ⟨holds, negation⟩

theorem neverBothTrue_not (formula : Formula) : NeverBothTrue formula (not formula) := by
  apply neverBothTrue_of_truth
  intro object
  exact not_true_with_negation rfl

/-- Aristotle's theses and Boethius's, up to the case of names, and the law of contradiction. -/
theorem connexive_theses :
    (∀ formula other : Formula, other.structurallyEqual formula = true →
      NeverTrue (implies (not formula) other) ∧ NeverTrue (implies formula (not other))) ∧
    (∀ antecedent consequent other : Formula, other.structurallyEqual consequent = true →
      NeverBothTrue (implies antecedent consequent) (implies antecedent (not other))) ∧
    ∀ formula : Formula, NeverBothTrue formula (not formula) := by
  refine ⟨fun formula other equal => ?_, fun antecedent consequent other equal => ?_,
    neverBothTrue_not⟩
  · have alike := Alike.of_structurallyEqual equal
    exact ⟨neverTrue_not_implies alike, neverTrue_implies_not alike⟩
  · exact neverBothTrue_implies (Alike.of_structurallyEqual equal)

/-- An implication that is true of the only object of a domain, beside the one that denies it in
other letters. -/
theorem connexive_theses_recased :
    let domain : Domain := ⟨[⟨"x", [("a", true), ("b", true)]⟩]⟩
    let consequent : Formula := .not (.not (.atom "a"))
    let other : Formula := .not (.not (.atom "A"))
    let antecedent : Formula := .and (.atom "a") (.atom "b")
    other.structurallyEqual consequent = true ∧
      (domain.forAll (implies antecedent consequent)).value = true ∧
      (domain.forAll (implies antecedent (not other))).value = false ∧
      (domain.forAll (implies consequent (not other))).value = false ∧
      ((implies (not consequent) other).evaluate ⟨"y", []⟩).value = false := by
  intro domain consequent other antecedent
  have equal : other.structurallyEqual consequent = true := by decide
  have holds : (domain.forAll (implies antecedent consequent)).value = true := by decide
  obtain ⟨aristotle, boethius, _⟩ := connexive_theses
  have never := aristotle consequent other equal
  refine ⟨equal, holds, ?_, never.2.2 domain, never.1.1 _⟩
  apply Bool.eq_false_iff.mpr
  exact fun denied => (boethius antecedent consequent other equal).2 domain ⟨holds, denied⟩

end Connexive.Formula
