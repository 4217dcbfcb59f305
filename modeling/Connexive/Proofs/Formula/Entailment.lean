import Connexive.Proofs.Domain.Universal

namespace Connexive.Formula

/-! What follows from implications that are true. They chain, and their consequents may be joined
under one antecedent. The shape of the concluded implication is new, and the check on it that no
premise has passed cannot fail: both of its sides are true, and no formula is true together with its
negation.
-/

/-- Two premises that are true make the conclusion true: of one object, and of a domain as a
whole. -/
def Entail (first second conclusion : Formula) : Prop :=
  (∀ object, (first.evaluate object).value = true → (second.evaluate object).value = true →
    (conclusion.evaluate object).value = true) ∧
  ∀ domain : Domain, (domain.forAll first).value = true → (domain.forAll second).value = true →
    (domain.forAll conclusion).value = true

variable {object : Object} {antecedent middle consequent first second conclusion : Formula}

theorem entail_of_truth
    (follows : ∀ object, first.truth object = true → second.truth object = true →
      conclusion.truth object = true) :
    Entail first second conclusion := by
  constructor
  · intro object firstHolds secondHolds
    rw [evaluate_value] at firstHolds secondHolds ⊢
    exact follows object firstHolds secondHolds
  · intro domain firstHolds secondHolds
    -- That the domain is not empty is known from a premise.
    obtain ⟨nonempty, ofFirst⟩ := Domain.forAll_value_iff.mp firstHolds
    obtain ⟨_, ofSecond⟩ := Domain.forAll_value_iff.mp secondHolds
    refine Domain.forAll_value_iff.mpr ⟨nonempty, fun object member => ?_⟩
    exact follows object (ofFirst object member) (ofSecond object member)

theorem OnTopic.trans (onTopic : antecedent.OnTopic middle) (further : middle.OnTopic consequent) :
    antecedent.OnTopic consequent :=
  fun topic sought => onTopic topic (further topic sought)

theorem onTopic_and_iff :
    antecedent.OnTopic (and first second) ↔
      antecedent.OnTopic first ∧ antecedent.OnTopic second := by
  simp only [OnTopic, topics_and, List.forall_mem_append]

theorem truth_implies_trans (holds : (implies antecedent middle).truth object = true)
    (further : (implies middle consequent).truth object = true) :
    (implies antecedent consequent).truth object = true := by
  obtain ⟨antecedentHolds, _, onTopic⟩ := truth_implies_iff.mp holds
  obtain ⟨_, consequentHolds, furtherOnTopic⟩ := truth_implies_iff.mp further
  exact truth_implies_iff.mpr ⟨antecedentHolds, consequentHolds, onTopic.trans furtherOnTopic⟩

theorem truth_implies_and (holds : (implies antecedent first).truth object = true)
    (further : (implies antecedent second).truth object = true) :
    (implies antecedent (and first second)).truth object = true := by
  obtain ⟨antecedentHolds, firstHolds, firstOnTopic⟩ := truth_implies_iff.mp holds
  obtain ⟨_, secondHolds, secondOnTopic⟩ := truth_implies_iff.mp further
  have bothHold : (and first second).truth object = true := by
    rw [truth, firstHolds, secondHolds, Bool.and_self]
  have onTopic := onTopic_and_iff.mpr ⟨firstOnTopic, secondOnTopic⟩
  exact truth_implies_iff.mpr ⟨antecedentHolds, bothHold, onTopic⟩

/-- Implication is transitive and closed under conjunction of its consequents, for one object and
for every object of a domain. -/
theorem implies_trans_and_join (antecedent middle consequent : Formula) :
    Entail (implies antecedent middle) (implies middle consequent)
        (implies antecedent consequent) ∧
      Entail (implies antecedent middle) (implies antecedent consequent)
        (implies antecedent (and middle consequent)) :=
  ⟨entail_of_truth fun _ => truth_implies_trans, entail_of_truth fun _ => truth_implies_and⟩

/-- A chain that starts from a negation, in a domain where one object leaves the atom unstated. -/
theorem implies_trans_and_join_from_negation :
    let unstated : Object := ⟨"y", []⟩
    let domain : Domain := ⟨[⟨"x", [("a", false)]⟩, unstated]⟩
    let antecedent : Formula := .not (.atom "a")
    let middle : Formula := .not (.and (.atom "A") (.atom "a"))
    let consequent : Formula := .or (.atom "a") (.not (.not (.not (.atom "a"))))
    (domain.forAll (implies antecedent middle)).value = true ∧
      (domain.forAll (implies middle consequent)).value = true ∧
      (domain.forAll (implies antecedent consequent)).value = true ∧
      (domain.forAll (implies antecedent (and middle consequent))).value = true ∧
      ((implies antecedent middle).evaluate unstated).value = true ∧
      ((implies antecedent consequent).evaluate unstated).value = true ∧
      ((implies antecedent (and middle consequent)).evaluate unstated).value = true := by
  intro unstated domain antecedent middle consequent
  have first : (domain.forAll (implies antecedent middle)).value = true := by decide
  have second : (domain.forAll (implies middle consequent)).value = true := by decide
  have ofObject : ((implies antecedent middle).evaluate unstated).value = true := by decide
  have further : ((implies middle consequent).evaluate unstated).value = true := by decide
  obtain ⟨chain, join⟩ := implies_trans_and_join antecedent middle consequent
  have chained := chain.2 domain first second
  have chainedHere := chain.1 unstated ofObject further
  exact ⟨first, second, chained, join.2 domain first chained, ofObject, chainedHere,
    join.1 unstated ofObject chainedHere⟩

end Connexive.Formula
