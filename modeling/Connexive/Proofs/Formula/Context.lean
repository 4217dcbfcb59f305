import Connexive.Proofs.Formula.Truth

namespace Connexive.Formula

/-! A part of a formula may be replaced by another one of the same value and the same topics. An
implication looks at more of its sides than that, but what it sees of their shape decides nothing.
-/

/-- A formula with a hole in the place of one of its parts. -/
inductive Context
  | hole
  | not (inner : Context)
  | andLeft (left : Context) (right : Formula)
  | andRight (left : Formula) (right : Context)
  | orLeft (left : Context) (right : Formula)
  | orRight (left : Formula) (right : Context)
  | impliesLeft (antecedent : Context) (consequent : Formula)
  | impliesRight (antecedent : Formula) (consequent : Context)
  deriving DecidableEq

def Context.fill (part : Formula) : Context → Formula
  | hole => part
  | not inner => .not (inner.fill part)
  | andLeft left right => .and (left.fill part) right
  | andRight left right => .and left (right.fill part)
  | orLeft left right => .or (left.fill part) right
  | orRight left right => .or left (right.fill part)
  | impliesLeft antecedent consequent => .implies (antecedent.fill part) consequent
  | impliesRight antecedent consequent => .implies antecedent (consequent.fill part)

/-- Formulas of one value for an object and of the same topics, whatever their shapes. -/
structure Matching (object : Object) (first second : Formula) : Prop where
  value : (first.evaluate object).value = (second.evaluate object).value
  topics : ∀ topic, topic ∈ first.topics ↔ topic ∈ second.topics

/-- Either formula may fill the hole of any context. What fills a bare hole may differ in being an
implication, so there only the values are compared. -/
def Interchangeable (object : Object) (first second : Formula) : Prop :=
  ∀ context : Context,
    ((context.fill first).evaluate object).value =
        ((context.fill second).evaluate object).value ∧
      (context ≠ .hole →
        ((context.fill first).evaluate object).classicalValue =
            ((context.fill second).evaluate object).classicalValue ∧
          ((context.fill first).evaluate object).isNonClassical =
            ((context.fill second).evaluate object).isNonClassical)

namespace Matching

variable {object : Object} {first second left right otherLeft otherRight : Formula}

theorem refl (formula : Formula) : Matching object formula formula :=
  ⟨rfl, fun _ => Iff.rfl⟩

theorem of_truth (truth : first.truth object = second.truth object)
    (topics : ∀ topic, topic ∈ first.topics ↔ topic ∈ second.topics) :
    Matching object first second := by
  refine ⟨?_, topics⟩
  rw [evaluate_value, evaluate_value, truth]

theorem truth_eq (matching : Matching object first second) :
    first.truth object = second.truth object := by
  have value := matching.value
  rwa [evaluate_value, evaluate_value] at value

theorem not (matching : Matching object first second) :
    Matching object (.not first) (.not second) :=
  of_truth (by simp only [truth, matching.truth_eq]) matching.topics

theorem and (leftMatch : Matching object left otherLeft)
    (rightMatch : Matching object right otherRight) :
    Matching object (.and left right) (.and otherLeft otherRight) := by
  apply of_truth
  · simp only [truth, leftMatch.truth_eq, rightMatch.truth_eq]
  · intro topic
    simp only [topics_and, List.mem_append, leftMatch.topics, rightMatch.topics]

theorem or (leftMatch : Matching object left otherLeft)
    (rightMatch : Matching object right otherRight) :
    Matching object (.or left right) (.or otherLeft otherRight) := by
  apply of_truth
  · simp only [truth, leftMatch.truth_eq, rightMatch.truth_eq]
  · intro topic
    simp only [topics_or, List.mem_append, leftMatch.topics, rightMatch.topics]

theorem onTopic_iff (leftMatch : Matching object left otherLeft)
    (rightMatch : Matching object right otherRight) :
    left.OnTopic right ↔ otherLeft.OnTopic otherRight := by
  simp only [OnTopic, leftMatch.topics, rightMatch.topics]

theorem implies (leftMatch : Matching object left otherLeft)
    (rightMatch : Matching object right otherRight) :
    Matching object (.implies left right) (.implies otherLeft otherRight) := by
  apply of_truth
  · have onTopic := leftMatch.onTopic_iff rightMatch
    simp only [truth, leftMatch.truth_eq, rightMatch.truth_eq, decide_eq_decide.mpr onTopic]
  · intro topic
    simp only [topics_implies, List.mem_append, leftMatch.topics, rightMatch.topics]

theorem fill (matching : Matching object first second) (context : Context) :
    Matching object (context.fill first) (context.fill second) := by
  induction context with
  | hole => exact matching
  | not inner innerIH => exact innerIH.not
  | andLeft left right leftIH => exact leftIH.and (refl right)
  | andRight left right rightIH => exact (refl left).and rightIH
  | orLeft left right leftIH => exact leftIH.or (refl right)
  | orRight left right rightIH => exact (refl left).or rightIH
  | impliesLeft antecedent consequent antecedentIH => exact antecedentIH.implies (refl consequent)
  | impliesRight antecedent consequent consequentIH => exact (refl antecedent).implies consequentIH

/-- Below the root, the verdict of a formula sees its parts only through values and topics. -/
theorem verdict_fill (matching : Matching object first second) {context : Context}
    (notBare : context ≠ .hole) :
    ((context.fill first).evaluate object).verdict =
      ((context.fill second).evaluate object).verdict := by
  cases context with
  | hole => contradiction
  | not inner =>
      simp only [Context.fill, evaluate, Evaluation.negation_verdict,
        (matching.fill inner).value]
  | andLeft left right =>
      simp only [Context.fill, evaluate, Evaluation.conjunction_verdict,
        (matching.fill left).value]
  | andRight left right =>
      simp only [Context.fill, evaluate, Evaluation.conjunction_verdict,
        (matching.fill right).value]
  | orLeft left right =>
      simp only [Context.fill, evaluate, Evaluation.disjunction_verdict,
        (matching.fill left).value]
  | orRight left right =>
      simp only [Context.fill, evaluate, Evaluation.disjunction_verdict,
        (matching.fill right).value]
  | impliesLeft antecedent consequent =>
      have whole := (matching.fill antecedent).implies (refl consequent)
      simp only [Context.fill, verdict_implies, whole.truth_eq,
        (matching.fill antecedent).truth_eq]
  | impliesRight antecedent consequent =>
      have whole := (refl antecedent).implies (matching.fill consequent)
      simp only [Context.fill, verdict_implies, whole.truth_eq,
        (matching.fill consequent).truth_eq]

theorem interchangeable (matching : Matching object first second) :
    Interchangeable object first second := by
  intro context
  refine ⟨(matching.fill context).value, fun notBare => ?_⟩
  have verdict := matching.verdict_fill notBare
  exact ⟨congrArg Verdict.classicalValue verdict, congrArg Verdict.isNonClassical verdict⟩

theorem and_comm (left right : Formula) :
    Matching object (.and left right) (.and right left) := by
  apply of_truth
  · simp only [truth, Bool.and_comm]
  · intro topic
    simp only [topics_and, List.mem_append, Or.comm]

theorem or_comm (left right : Formula) :
    Matching object (.or left right) (.or right left) := by
  apply of_truth
  · simp only [truth, Bool.or_comm]
  · intro topic
    simp only [topics_or, List.mem_append, Or.comm]

theorem not_not (formula : Formula) : Matching object (.not (.not formula)) formula := by
  apply of_truth
  · simp only [truth, Bool.not_not]
  · intro topic
    rw [topics_not, topics_not]

end Matching

/-- Formulas that match are interchangeable in every context. So are a conjunction and a disjunction
with the same ones turned round, and a formula with its double negation. -/
theorem interchangeable_of_matching (object : Object) :
    (∀ first second, Matching object first second → Interchangeable object first second) ∧
    (∀ left right, Interchangeable object (.and left right) (.and right left)) ∧
    (∀ left right, Interchangeable object (.or left right) (.or right left)) ∧
    ∀ formula, Interchangeable object (.not (.not formula)) formula :=
  ⟨fun _ _ matching => matching.interchangeable,
    fun left right => (Matching.and_comm left right).interchangeable,
    fun left right => (Matching.or_comm left right).interchangeable,
    fun formula => (Matching.not_not formula).interchangeable⟩

/-- The check on the shape of an implication sees the difference, and the verdict does not. -/
theorem interchangeable_beyond_shape :
    let object : Object := ⟨"x", [("a", true)]⟩
    let first : Formula := .atom "A"
    let second : Formula := .not (.not (.and (.atom "a") (.atom "a")))
    let context : Context := .impliesLeft (.not .hole) (.atom "a")
    Matching object first second ∧
      (Formula.not first).aristotleCoherent (.atom "a") = false ∧
      (Formula.not second).aristotleCoherent (.atom "a") = true ∧
      ((context.fill first).evaluate object).value =
        ((context.fill second).evaluate object).value ∧
      ((context.fill first).evaluate object).isNonClassical =
        ((context.fill second).evaluate object).isNonClassical := by
  intro object first second context
  have matching : Matching object first second :=
    .of_truth (by decide) fun topic => by
      have lower : Text.lower "A" = Text.lower "a" := by decide
      simp [first, second, lower]
  obtain ⟨value, verdict⟩ := (interchangeable_of_matching object).1 first second matching context
  exact ⟨matching, by decide, by decide, value, (verdict nofun).2⟩

end Connexive.Formula
