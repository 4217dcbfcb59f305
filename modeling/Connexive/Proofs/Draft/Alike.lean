import Connexive.Proofs.Draft.Foreign
import Connexive.Proofs.Formula.Alike

namespace Connexive.Draft

/-! Structural equality of drafts. It compares them as if all their names stood in lower case, and
nothing that holds data is equal to anything. So it is symmetric and transitive, and reflexive
where a draft is a formula, and an implication cannot tell equal sides apart.
-/

/-- The draft with all its names in lower case. Data stays as it is. -/
def lowered : Draft → Draft
  | atom name => atom (Text.lower name)
  | not inner => not inner.lowered
  | and left right => and left.lowered right.lowered
  | or left right => or left.lowered right.lowered
  | implies antecedent consequent => implies antecedent.lowered consequent.lowered
  | foreign value => foreign value

variable {first second left right otherLeft otherRight : Draft}

theorem structurallyEqual_parts_iff
    (leftIff : left.structurallyEqual otherLeft = true ↔
      left.data = [] ∧ otherLeft.data = [] ∧ left.lowered = otherLeft.lowered)
    (rightIff : right.structurallyEqual otherRight = true ↔
      right.data = [] ∧ otherRight.data = [] ∧ right.lowered = otherRight.lowered) :
    (left.structurallyEqual otherLeft && right.structurallyEqual otherRight) = true ↔
      left.data ++ right.data = [] ∧ otherLeft.data ++ otherRight.data = [] ∧
        left.lowered = otherLeft.lowered ∧ right.lowered = otherRight.lowered := by
  rw [Bool.and_eq_true, leftIff, rightIff, List.append_eq_nil_iff, List.append_eq_nil_iff]
  constructor
  · rintro ⟨⟨leftPure, otherLeftPure, leftSame⟩, rightPure, otherRightPure, rightSame⟩
    exact ⟨⟨leftPure, rightPure⟩, ⟨otherLeftPure, otherRightPure⟩, leftSame, rightSame⟩
  · rintro ⟨⟨leftPure, rightPure⟩, ⟨otherLeftPure, otherRightPure⟩, leftSame, rightSame⟩
    exact ⟨⟨leftPure, otherLeftPure, leftSame⟩, rightPure, otherRightPure, rightSame⟩

theorem structurallyEqual_iff :
    first.structurallyEqual second = true ↔
      first.data = [] ∧ second.data = [] ∧ first.lowered = second.lowered := by
  induction first generalizing second with
  | atom name => cases second <;> simp [structurallyEqual, data, lowered]
  | not inner innerIH => cases second <;> simp [structurallyEqual, data, lowered, innerIH]
  | and left right leftIH rightIH =>
      cases second with
      | and otherLeft otherRight =>
          simpa only [structurallyEqual, data, lowered, and.injEq] using
            structurallyEqual_parts_iff leftIH rightIH
      | _ => simp [structurallyEqual, lowered]
  | or left right leftIH rightIH =>
      cases second with
      | or otherLeft otherRight =>
          simpa only [structurallyEqual, data, lowered, or.injEq] using
            structurallyEqual_parts_iff leftIH rightIH
      | _ => simp [structurallyEqual, lowered]
  | implies left right leftIH rightIH =>
      cases second with
      | implies otherLeft otherRight =>
          simpa only [structurallyEqual, data, lowered, implies.injEq] using
            structurallyEqual_parts_iff leftIH rightIH
      | _ => simp [structurallyEqual, lowered]
  | foreign value => cases second <;> simp [structurallyEqual, data]

theorem structurallyEqual_comm :
    first.structurallyEqual second = second.structurallyEqual first := by
  rw [Bool.eq_iff_iff, structurallyEqual_iff, structurallyEqual_iff, and_left_comm,
    eq_comm (a := first.lowered)]

theorem structurallyEqual_congr_left (same : first.structurallyEqual second = true)
    (other : Draft) : first.structurallyEqual other = second.structurallyEqual other := by
  obtain ⟨firstPure, secondPure, lowered⟩ := structurallyEqual_iff.mp same
  rw [Bool.eq_iff_iff, structurallyEqual_iff, structurallyEqual_iff, firstPure, secondPure, lowered]

theorem structurallyEqual_congr_right (same : first.structurallyEqual second = true)
    (other : Draft) : other.structurallyEqual first = other.structurallyEqual second := by
  rw [structurallyEqual_comm, structurallyEqual_congr_left same, structurallyEqual_comm]

theorem structurallyEqual_equivalence :
    Equivalence fun first second : Formula =>
      (ofFormula first).structurallyEqual (ofFormula second) = true where
  refl _ := structurallyEqual_iff.mpr ⟨data_ofFormula _, data_ofFormula _, rfl⟩
  symm same := structurallyEqual_comm.trans same
  trans same further := (structurallyEqual_congr_left same _).trans further

/-- Only formulas are equal in structure. -/
theorem exists_alike (same : first.structurallyEqual second = true) :
    ∃ formula other : Formula,
      first = ofFormula formula ∧ second = ofFormula other ∧ formula.Alike other := by
  obtain ⟨firstPure, secondPure, _⟩ := structurallyEqual_iff.mp same
  obtain ⟨formula, rfl⟩ := exists_formula firstPure
  obtain ⟨other, rfl⟩ := exists_formula secondPure
  rw [structurallyEqual_ofFormula] at same
  exact ⟨formula, other, rfl, rfl, .of_structurallyEqual same⟩

theorem topics_congr (same : first.structurallyEqual second = true) :
    first.topics = second.topics := by
  obtain ⟨formula, other, rfl, rfl, alike⟩ := exists_alike same
  rw [topics_ofFormula, topics_ofFormula, alike.topics_eq]

theorem aristotleCoherent_congr_left (same : first.structurallyEqual second = true)
    (consequent : Draft) :
    first.aristotleCoherent consequent = second.aristotleCoherent consequent := by
  obtain ⟨formula, other, rfl, rfl, alike⟩ := exists_alike same
  cases alike with
  | @not inner otherInner alike =>
      have sameInner : (ofFormula inner).structurallyEqual (ofFormula otherInner) = true := by
        rw [structurallyEqual_ofFormula, alike.structurallyEqual]
      rw [ofFormula, ofFormula, aristotleCoherent, aristotleCoherent,
        structurallyEqual_congr_left sameInner]
  | _ => rfl

theorem aristotleCoherent_congr_right (same : first.structurallyEqual second = true)
    (antecedent : Draft) :
    antecedent.aristotleCoherent first = antecedent.aristotleCoherent second := by
  cases antecedent with
  | not inner => rw [aristotleCoherent, aristotleCoherent, structurallyEqual_congr_right same]
  | _ => rfl

theorem implication_congr_left (same : first.structurallyEqual second = true) (consequent : Draft) :
    first.implication consequent = second.implication consequent := by
  rw [implication, implication, topics_congr same, aristotleCoherent_congr_left same]

theorem implication_congr_right (same : first.structurallyEqual second = true)
    (antecedent : Draft) : antecedent.implication first = antecedent.implication second := by
  rw [implication, implication, topics_congr same, aristotleCoherent_congr_right same]

end Connexive.Draft
