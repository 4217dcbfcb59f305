import Connexive.Evaluation.Compound

namespace Connexive

/-! What an evaluation decides, apart from how it is explained. Lines and heuristics added to an
evaluation never touch its verdict, so the verdict of a compound follows from the values of its
parts.
-/

structure Verdict where
  value : Bool
  classicalValue : Option Bool
  isNonClassical : Bool
  deriving DecidableEq

/-- The verdict of whatever is no implication: there is no classical value to differ from. -/
def Verdict.plain (value : Bool) : Verdict := ⟨value, none, false⟩

namespace Evaluation

variable {evaluation : Evaluation}

def verdict (evaluation : Evaluation) : Verdict :=
  ⟨evaluation.value, evaluation.classicalValue, evaluation.isNonClassical⟩

theorem classical_of_plain {value : Bool} (plain : evaluation.verdict = .plain value) :
    evaluation.classicalValue = none ∧ evaluation.isNonClassical = false :=
  ⟨congrArg Verdict.classicalValue plain, congrArg Verdict.isNonClassical plain⟩

@[simp] theorem merge_verdict (heuristics : List Heuristic) :
    (evaluation.merge heuristics).verdict = evaluation.verdict := rfl

@[simp] theorem appendLines_verdict (lines : List String) :
    (evaluation.appendLines lines).verdict = evaluation.verdict := rfl

@[simp] theorem annotate_verdict (heuristic : Heuristic) (rationale : String) :
    (evaluation.annotate heuristic rationale).verdict = evaluation.verdict := rfl

@[simp] theorem annotateIf_verdict (applies : Bool) (heuristic : Heuristic) :
    (evaluation.annotateIf applies heuristic).verdict = evaluation.verdict := by
  cases applies with
  | false => rfl
  | true => exact annotate_verdict heuristic heuristic.rationale

@[simp] theorem ofFact_verdict (object : Object) (predicate : String) :
    (ofFact object predicate).verdict = .plain (object.holds predicate) := by
  simp only [ofFact, annotateIf_verdict, appendLines_verdict]
  rfl

@[simp] theorem negation_verdict (inner : Evaluation) :
    (negation inner).verdict = .plain (!inner.value) := rfl

@[simp] theorem conjunction_verdict (left right : Evaluation) :
    (conjunction left right).verdict = .plain (left.value && right.value) := rfl

@[simp] theorem disjunction_verdict (left right : Evaluation) :
    (disjunction left right).verdict = .plain (left.value || right.value) := rfl

/-- Classical truth and coherence with the opposite consequent together amount to the truth of both
sides: a false antecedent would imply the opposite as well, and a false consequent fails
classically. -/
@[simp] theorem implication_verdict (shape : Implication) (antecedent consequent : Evaluation) :
    (implication shape antecedent consequent).verdict =
      let value :=
        antecedent.value && consequent.value && shape.isRelevant && shape.isAristotleCoherent
      let classical := !antecedent.value || consequent.value
      ⟨value, some classical, value != classical⟩ := by
  simp only [implication, annotateIf_verdict, merge_verdict, appendLines_verdict]
  cases antecedent.value <;> cases consequent.value <;>
    cases shape.isRelevant <;> cases shape.isAristotleCoherent <;> rfl

end Evaluation

end Connexive
