import Connexive.Formula.Evaluate
import Connexive.Proofs.Draft.OfFormula
import Connexive.Proofs.Evaluation.Verdict
import Connexive.Proofs.Formula.Alike

namespace Connexive.Formula

/-! The meaning of a formula for one object, said without derivations and without the checks that an
evaluation makes. An implication is true when both sides are and the consequent stays on the topics
of the antecedent. Aristotle's thesis needs no mention: a formula and its negation are never both
true, so the check decides nothing that the values leave open.
-/

/-- The consequent speaks of nothing that the antecedent does not mention. -/
def OnTopic (antecedent consequent : Formula) : Prop :=
  ∀ topic ∈ consequent.topics, topic ∈ antecedent.topics

instance (antecedent consequent : Formula) : Decidable (OnTopic antecedent consequent) :=
  inferInstanceAs (Decidable (∀ topic ∈ consequent.topics, topic ∈ antecedent.topics))

def truth (object : Object) : Formula → Bool
  | atom name => (object.facts.lookup (Text.lower name)).getD false
  | not inner => !inner.truth object
  | and left right => left.truth object && right.truth object
  | or left right => left.truth object || right.truth object
  | implies antecedent consequent =>
    antecedent.truth object && consequent.truth object && decide (antecedent.OnTopic consequent)

variable {object : Object} {antecedent consequent : Formula}

theorem truth_implies_iff :
    (implies antecedent consequent).truth object = true ↔
      antecedent.truth object = true ∧ consequent.truth object = true ∧
        antecedent.OnTopic consequent := by
  simp only [truth, Bool.and_eq_true, decide_eq_true_eq, and_assoc]

theorem Alike.truth_eq {first second : Formula} (alike : Alike first second) :
    first.truth object = second.truth object := by
  induction alike with
  | atom topic => simp only [truth, topic]
  | not _ innerIH => simp only [truth, innerIH]
  | and _ _ leftIH rightIH | or _ _ leftIH rightIH => simp only [truth, leftIH, rightIH]
  | @implies left right otherLeft otherRight leftAlike rightAlike leftIH rightIH =>
      have onTopic : left.OnTopic right ↔ otherLeft.OnTopic otherRight := by
        rw [OnTopic, OnTopic, leftAlike.topics_eq, rightAlike.topics_eq]
      simp only [truth, leftIH, rightIH, decide_eq_decide.mpr onTopic]

/-- The meaning depends on which of the atoms hold, whether or not anything is stated about them. -/
theorem truth_congr {other : Object} {formula : Formula}
    (alike : ∀ name ∈ formula.names, object.holds name = other.holds name) :
    formula.truth object = formula.truth other := by
  induction formula with
  | atom name => exact alike name (List.mem_singleton_self name)
  | not inner innerIH => simp only [truth, innerIH alike]
  | and left right leftIH rightIH | or left right leftIH rightIH
  | implies left right leftIH rightIH =>
      obtain ⟨leftAlike, rightAlike⟩ := List.forall_mem_append.mp alike
      simp only [truth, leftIH leftAlike, rightIH rightAlike]

/-- An antecedent that negates its consequent is never true together with it. -/
theorem aristotleCoherent_of_truth (antecedentTrue : antecedent.truth object = true)
    (consequentTrue : consequent.truth object = true) :
    antecedent.aristotleCoherent consequent = true := by
  cases antecedent with
  | not inner =>
      cases equal : inner.structurallyEqual consequent with
      | false => simp only [aristotleCoherent, equal, Bool.not_false]
      | true =>
          have innerTrue : inner.truth object = true :=
            (Alike.of_structurallyEqual equal).truth_eq.trans consequentTrue
          simp [truth, innerTrue] at antecedentTrue
  | _ => rfl

theorem implication_isRelevant (antecedent consequent : Formula) :
    (antecedent.implication consequent).isRelevant = decide (antecedent.OnTopic consequent) := by
  rw [Bool.eq_iff_iff, decide_eq_true_iff]
  simp [implication, Implication.ofTopics, OnTopic]

/-- The conditions of an implication, over the truth of its sides, amount to its truth. -/
theorem truth_implies_eq_conditions (antecedent consequent : Formula) :
    (implies antecedent consequent).truth object =
      (antecedent.truth object && consequent.truth object &&
        (antecedent.implication consequent).isRelevant &&
        (antecedent.implication consequent).isAristotleCoherent) := by
  rw [implication_isRelevant]
  cases antecedentTrue : antecedent.truth object with
  | false => simp [truth, antecedentTrue]
  | true =>
      cases consequentTrue : consequent.truth object with
      | false => simp [truth, consequentTrue]
      | true =>
          have coherent : (antecedent.implication consequent).isAristotleCoherent = true :=
            aristotleCoherent_of_truth antecedentTrue consequentTrue
          simp [truth, antecedentTrue, consequentTrue, coherent]

theorem evaluate_value (object : Object) (formula : Formula) :
    (formula.evaluate object).value = formula.truth object := by
  induction formula with
  | atom name => exact congrArg Verdict.value (Evaluation.ofFact_verdict object name)
  | not inner innerIH =>
      rw [truth, ← innerIH]
      exact congrArg Verdict.value (Evaluation.negation_verdict _)
  | and left right leftIH rightIH =>
      rw [truth, ← leftIH, ← rightIH]
      exact congrArg Verdict.value (Evaluation.conjunction_verdict _ _)
  | or left right leftIH rightIH =>
      rw [truth, ← leftIH, ← rightIH]
      exact congrArg Verdict.value (Evaluation.disjunction_verdict _ _)
  | implies antecedent consequent antecedentIH consequentIH =>
      rw [truth_implies_eq_conditions, ← antecedentIH, ← consequentIH]
      exact congrArg Verdict.value (Evaluation.implication_verdict _ _ _)

theorem verdict_implies (object : Object) (antecedent consequent : Formula) :
    ((implies antecedent consequent).evaluate object).verdict =
      let value := (implies antecedent consequent).truth object
      let classical := !antecedent.truth object || consequent.truth object
      ⟨value, some classical, value != classical⟩ := by
  rw [evaluate, Evaluation.implication_verdict, evaluate_value, evaluate_value,
    truth_implies_eq_conditions]

theorem verdict_congr {other : Object} {formula : Formula}
    (alike : ∀ name ∈ formula.names, object.holds name = other.holds name) :
    (formula.evaluate object).verdict = (formula.evaluate other).verdict := by
  cases formula with
  | atom name =>
      have holds := alike name (List.mem_singleton_self name)
      simp only [evaluate, Evaluation.ofFact_verdict, holds]
  | not inner =>
      have same : inner.truth object = inner.truth other := truth_congr alike
      simp only [evaluate, Evaluation.negation_verdict, evaluate_value, same]
  | and left right =>
      obtain ⟨leftAlike, rightAlike⟩ := List.forall_mem_append.mp alike
      simp only [evaluate, Evaluation.conjunction_verdict, evaluate_value, truth_congr leftAlike,
        truth_congr rightAlike]
  | or left right =>
      obtain ⟨leftAlike, rightAlike⟩ := List.forall_mem_append.mp alike
      simp only [evaluate, Evaluation.disjunction_verdict, evaluate_value, truth_congr leftAlike,
        truth_congr rightAlike]
  | implies antecedent consequent =>
      obtain ⟨antecedentAlike, consequentAlike⟩ := List.forall_mem_append.mp alike
      rw [verdict_implies, verdict_implies, truth_congr alike, truth_congr antecedentAlike,
        truth_congr consequentAlike]

/-- An implication diverges from the material one where that holds by a false antecedent, or where
it holds by a true consequent that brings in a topic of its own. -/
theorem truth_implies_ne_classical (antecedent consequent : Formula) :
    (implies antecedent consequent).truth object ≠
        (!antecedent.truth object || consequent.truth object) ↔
      antecedent.truth object = false ∨
        consequent.truth object = true ∧
          ∃ topic ∈ consequent.topics, topic ∉ antecedent.topics := by
  have newTopic : (∃ topic ∈ consequent.topics, topic ∉ antecedent.topics) ↔
      ¬ antecedent.OnTopic consequent := by
    simp [OnTopic]
  rw [newTopic, truth]
  cases antecedent.truth object <;> cases consequent.truth object <;> simp

/-- Every evaluation decides as the meaning of the formula says, and only an implication compares
itself with the material one. -/
theorem evaluate_eq_truth (object : Object) (formula : Formula) :
    (Draft.ofFormula formula).evaluate object = .ok (formula.evaluate object) ∧
      (formula.evaluate object).value = formula.truth object ∧
      match formula with
      | implies antecedent consequent =>
        (formula.evaluate object).classicalValue =
            some (!antecedent.truth object || consequent.truth object) ∧
          ((formula.evaluate object).isNonClassical = true ↔
            antecedent.truth object = false ∨
              consequent.truth object = true ∧
                ∃ topic ∈ consequent.topics, topic ∉ antecedent.topics)
      | _ =>
        (formula.evaluate object).classicalValue = none ∧
          (formula.evaluate object).isNonClassical = false := by
  refine ⟨Draft.evaluate_ofFormula object formula, evaluate_value object formula, ?_⟩
  cases formula with
  | atom name => exact Evaluation.classical_of_plain (Evaluation.ofFact_verdict object name)
  | not inner => exact Evaluation.classical_of_plain (Evaluation.negation_verdict _)
  | and left right => exact Evaluation.classical_of_plain (Evaluation.conjunction_verdict _ _)
  | or left right => exact Evaluation.classical_of_plain (Evaluation.disjunction_verdict _ _)
  | implies antecedent consequent =>
      have verdict := Evaluation.implication_verdict (antecedent.implication consequent)
        (antecedent.evaluate object) (consequent.evaluate object)
      have classical := congrArg Verdict.classicalValue verdict
      have diverges := congrArg Verdict.isNonClassical verdict
      simp only [evaluate_value, ← truth_implies_eq_conditions] at classical diverges
      refine ⟨classical, ?_⟩
      rw [← truth_implies_ne_classical, ← bne_iff_ne, ← diverges]
      rfl

end Connexive.Formula
