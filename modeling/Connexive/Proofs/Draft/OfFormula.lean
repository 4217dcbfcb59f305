import Connexive.Draft.Evaluate

namespace Connexive.Draft

/-! A draft in which no plain data stands is a formula, and every operation on it succeeds with what
the formula gives. -/

@[simp] theorem render_ofFormula (formula : Formula) :
    (ofFormula formula).render = .ok formula.render := by
  induction formula with
  | atom name => rfl
  | not inner innerIH =>
      simp only [ofFormula, render, innerIH]
      rfl
  | and left right leftIH rightIH | or left right leftIH rightIH
  | implies left right leftIH rightIH =>
      simp only [ofFormula, render, leftIH, rightIH]
      rfl

@[simp] theorem topics_ofFormula (formula : Formula) :
    (ofFormula formula).topics = .ok formula.topics := by
  induction formula with
  | atom name => rfl
  | not inner innerIH => exact innerIH
  | and left right leftIH rightIH | or left right leftIH rightIH
  | implies left right leftIH rightIH =>
      simp only [ofFormula, topics, leftIH, rightIH, Formula.topics, Formula.names, List.map_append]
      rfl

@[simp] theorem structurallyEqual_ofFormula (first second : Formula) :
    (ofFormula first).structurallyEqual (ofFormula second) = first.structurallyEqual second := by
  induction first generalizing second with
  | atom name => cases second <;> rfl
  | not inner innerIH =>
      cases second with
      | not other => exact innerIH other
      | _ => rfl
  | and left right leftIH rightIH | or left right leftIH rightIH
  | implies left right leftIH rightIH =>
      cases second <;>
        simp only [ofFormula, structurallyEqual, Formula.structurallyEqual, leftIH, rightIH]

@[simp] theorem implication_ofFormula (antecedent consequent : Formula) :
    (ofFormula antecedent).implication (ofFormula consequent) =
      .ok (antecedent.implication consequent) := by
  have coherent : (ofFormula antecedent).aristotleCoherent (ofFormula consequent) =
      antecedent.aristotleCoherent consequent := by
    cases antecedent <;>
      simp only [ofFormula, aristotleCoherent, Formula.aristotleCoherent,
        structurallyEqual_ofFormula]
  simp only [implication, topics_ofFormula, coherent]
  rfl

@[simp] theorem evaluate_ofFormula (object : Object) (formula : Formula) :
    (ofFormula formula).evaluate object = .ok (formula.evaluate object) := by
  induction formula with
  | atom name => rfl
  | not inner innerIH =>
      simp only [ofFormula, evaluate, innerIH]
      rfl
  | and left right leftIH rightIH | or left right leftIH rightIH =>
      simp only [ofFormula, evaluate, leftIH, rightIH]
      rfl
  | implies antecedent consequent antecedentIH consequentIH =>
      simp only [ofFormula, evaluate, antecedentIH, consequentIH, implication_ofFormula]
      rfl

@[simp] theorem evaluateSelf_ofFormula (object : Object) (formula : Formula) :
    (ofFormula formula).evaluateSelf object = .ok (formula.evaluate object) := by
  have plain : (ofFormula formula).foreign? = none := by
    cases formula <;> rfl
  rw [evaluateSelf, plain]
  exact evaluate_ofFormula object formula

@[simp] theorem failing_ofFormula (formula : Formula) (objects : List Object) :
    (ofFormula formula).failing objects =
      .ok ((objects.filter fun object => !(formula.evaluate object).value).map Object.name) := by
  induction objects with
  | nil => rfl
  | cons object rest restIH =>
      rw [failing, evaluateSelf_ofFormula, restIH]
      cases value : (formula.evaluate object).value <;>
        simp [value, bind, Except.bind, pure, Except.pure]

@[simp] theorem forAllDraft_ofFormula (domain : Domain) (formula : Formula) :
    domain.forAllDraft (ofFormula formula) = .ok (domain.forAll formula) := by
  rw [Domain.forAllDraft, Domain.forAll, failing_ofFormula]
  split <;> rfl

end Connexive.Draft
