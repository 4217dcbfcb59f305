import Connexive.Domain.ForAll
import Connexive.Proofs.Formula.Truth

namespace Connexive.Domain

/-! What the universal quantifier decides, in terms of the truth of the formula for each object. The
empty domain is the one case in which no object fails and the claim is false all the same.
-/

variable {domain : Domain} {formula : Formula}

theorem failing_forAll (domain : Domain) (formula : Formula) :
    (domain.forAll formula).failing =
      (domain.objects.filter fun object => !formula.truth object).map Object.name := by
  obtain ⟨objects⟩ := domain
  cases objects with
  | nil => rfl
  | cons object rest => simp [forAll, UniversalVerdict.ofFailing, Formula.evaluate_value]

theorem forAll_value_iff :
    (domain.forAll formula).value = true ↔
      domain.objects ≠ [] ∧ ∀ object ∈ domain.objects, formula.truth object = true := by
  obtain ⟨objects⟩ := domain
  cases objects with
  | nil => simp [forAll, UniversalVerdict.vacuous]
  | cons object rest =>
      simp [forAll, UniversalVerdict.ofFailing, Formula.evaluate_value, List.filter_eq_nil_iff]

/-- Two claims that hold of one domain hold together of some object in it. -/
theorem exists_of_forAll {first second : Formula}
    (firstHolds : (domain.forAll first).value = true)
    (secondHolds : (domain.forAll second).value = true) :
    ∃ object ∈ domain.objects, first.truth object = true ∧ second.truth object = true := by
  obtain ⟨nonempty, ofFirst⟩ := forAll_value_iff.mp firstHolds
  obtain ⟨_, ofSecond⟩ := forAll_value_iff.mp secondHolds
  obtain ⟨object, member⟩ := List.exists_mem_of_ne_nil _ nonempty
  exact ⟨object, member, ofFirst object member, ofSecond object member⟩

end Connexive.Domain
