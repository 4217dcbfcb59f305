import Connexive.Formula.Evaluate
import Connexive.Proofs.Evaluation.Layout

namespace Connexive.Formula

/-! What a derivation gives away: the formula, name by name, and what the object states about each
of its atoms. It gives away nothing else, and neither does any other part of an evaluation.
-/

open Evaluation

/-- The two objects state the same about every atom of the formula, or nothing both. -/
def StatedAlike (formula : Formula) (object other : Object) : Prop :=
  ∀ name ∈ formula.names, object.stated? name = other.stated? name

instance (formula : Formula) (object other : Object) :
    Decidable (formula.StatedAlike object other) :=
  inferInstanceAs (Decidable (∀ name ∈ formula.names, object.stated? name = other.stated? name))

variable {object other : Object} {first second left right : Formula} {name : String}

theorem statedAlike_atom :
    (atom name).StatedAlike object other ↔ object.stated? name = other.stated? name := by
  simp [StatedAlike, names]

theorem statedAlike_append {formula : Formula} (parts : formula.names = left.names ++ right.names) :
    formula.StatedAlike object other ↔
      left.StatedAlike object other ∧ right.StatedAlike object other := by
  simp only [StatedAlike, parts, List.forall_mem_append]

/-- An evaluation depends on the name of the object and on what it states about the atoms. -/
theorem evaluate_congr (sameName : object.name = other.name) {formula : Formula}
    (alike : formula.StatedAlike object other) :
    formula.evaluate object = formula.evaluate other := by
  induction formula with
  | atom name =>
      have stated := statedAlike_atom.mp alike
      simp only [evaluate, ofFact, factLine, Object.holds, stated, sameName]
  | not inner innerIH => simp only [evaluate, innerIH alike]
  | and left right leftIH rightIH | or left right leftIH rightIH
  | implies left right leftIH rightIH =>
      obtain ⟨leftAlike, rightAlike⟩ := (statedAlike_append rfl).mp alike
      simp only [evaluate, leftIH leftAlike, rightIH rightAlike]

/-- The capital that the derivations of formulas with this connective open with. -/
def capital : Formula → Char
  | atom _ => 'F'
  | not _ => 'N'
  | and _ _ => 'A'
  | or _ _ => 'O'
  | implies _ _ => 'C'

theorem firstCapital?_derivation (object : Object) (formula : Formula) :
    (formula.evaluate object).derivation.head?.bind firstCapital? = some formula.capital := by
  cases formula with
  | atom name =>
      rw [evaluate, ofFact_derivation, List.head?_cons, Option.bind_some]
      exact firstCapital?_factLine object name
  | not inner =>
      rw [evaluate, negation_derivation, List.head?_cons, Option.bind_some]
      exact firstCapital?_negationLine _
  | and left right =>
      rw [evaluate, conjunction, binary_derivation, List.head?_cons, Option.bind_some]
      exact firstCapital?_binaryLine rfl _ _ _
  | or left right =>
      rw [evaluate, disjunction, binary_derivation, List.head?_cons, Option.bind_some]
      exact firstCapital?_binaryLine rfl _ _ _
  | implies antecedent consequent =>
      rw [evaluate, implication_derivation, List.head?_cons, Option.bind_some]
      exact firstCapital?_conditionsLine _ _ _ _

theorem capital_eq_of_derivation
    (same : (first.evaluate object).derivation = (second.evaluate other).derivation) :
    first.capital = second.capital := by
  have firstOpens := firstCapital?_derivation object first
  rw [same, firstCapital?_derivation other second] at firstOpens
  exact (Option.some.inj firstOpens).symm

/-- The formula and the statements can be read off the derivation. Two formulas with one derivation
share the outermost connective, and then their parts share derivations. -/
theorem eq_of_derivation (sameName : object.name = other.name)
    (same : (first.evaluate object).derivation = (second.evaluate other).derivation) :
    first = second ∧ first.StatedAlike object other := by
  induction first generalizing second with
  | atom name =>
      cases second with
      | atom otherName =>
          obtain ⟨rfl, stated⟩ := ofFact_derivation_inj sameName same
          exact ⟨rfl, statedAlike_atom.mpr stated⟩
      | _ => exact absurd (capital_eq_of_derivation same) (by simp [capital])
  | not inner innerIH =>
      cases second with
      | not otherInner =>
          have sameInner := nested_inj (List.cons.inj same).2
          obtain ⟨rfl, alike⟩ := innerIH sameInner
          exact ⟨rfl, alike⟩
      | _ => exact absurd (capital_eq_of_derivation same) (by simp [capital])
  | and left right leftIH rightIH =>
      cases second with
      | and otherLeft otherRight =>
          obtain ⟨sameLeft, sameRight⟩ := binary_derivation_inj same
          obtain ⟨rfl, leftAlike⟩ := leftIH sameLeft
          obtain ⟨rfl, rightAlike⟩ := rightIH sameRight
          exact ⟨rfl, (statedAlike_append rfl).mpr ⟨leftAlike, rightAlike⟩⟩
      | _ => exact absurd (capital_eq_of_derivation same) (by simp [capital])
  | or left right leftIH rightIH =>
      cases second with
      | or otherLeft otherRight =>
          obtain ⟨sameLeft, sameRight⟩ := binary_derivation_inj same
          obtain ⟨rfl, leftAlike⟩ := leftIH sameLeft
          obtain ⟨rfl, rightAlike⟩ := rightIH sameRight
          exact ⟨rfl, (statedAlike_append rfl).mpr ⟨leftAlike, rightAlike⟩⟩
      | _ => exact absurd (capital_eq_of_derivation same) (by simp [capital])
  | implies antecedent consequent antecedentIH consequentIH =>
      cases second with
      | implies otherAntecedent otherConsequent =>
          obtain ⟨sameAntecedent, sameConsequent⟩ := implication_derivation_inj same
          obtain ⟨rfl, antecedentAlike⟩ := antecedentIH sameAntecedent
          obtain ⟨rfl, consequentAlike⟩ := consequentIH sameConsequent
          exact ⟨rfl, (statedAlike_append rfl).mpr ⟨antecedentAlike, consequentAlike⟩⟩
      | _ => exact absurd (capital_eq_of_derivation same) (by simp [capital])

/-- Derivations for objects of one name agree exactly if the formulas are the same and the objects
state the same about the atoms. Where the objects do that, nothing else that they state makes a
difference to the evaluation. -/
theorem derivation_eq_iff (sameName : object.name = other.name) (first second : Formula) :
    ((first.evaluate object).derivation = (second.evaluate other).derivation ↔
      first = second ∧ first.StatedAlike object other) ∧
    (first.StatedAlike object other → first.evaluate object = first.evaluate other) := by
  refine ⟨⟨eq_of_derivation sameName, ?_⟩, evaluate_congr sameName⟩
  rintro ⟨rfl, alike⟩
  rw [evaluate_congr sameName alike]

/-- An object that also states something else, and one that leaves the atom unstated. Only the second
has a derivation of its own. -/
theorem derivation_eq_unset_atom :
    let told : Object := ⟨"x", [("a", false), ("b", true)]⟩
    let plain : Object := ⟨"x", [("a", false)]⟩
    let untold : Object := ⟨"x", [("b", true)]⟩
    let formula : Formula := .implies (.not (.atom "A")) (.atom "a")
    told.name = plain.name ∧ told.name = untold.name ∧
      formula.evaluate told = formula.evaluate plain ∧
      (formula.evaluate told).derivation ≠ (formula.evaluate untold).derivation := by
  intro told plain untold formula
  have plainName : told.name = plain.name := rfl
  have untoldName : told.name = untold.name := rfl
  refine ⟨plainName, untoldName,
    (derivation_eq_iff plainName formula formula).2 (by decide), fun same => ?_⟩
  have unstated : ¬ formula.StatedAlike told untold := by decide
  exact unstated ((derivation_eq_iff untoldName formula formula).1.mp same).2

end Connexive.Formula
