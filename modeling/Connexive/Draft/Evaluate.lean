import Connexive.Domain.ForAll
import Connexive.Draft.Basic

namespace Connexive

namespace Draft

def evaluate (object : Object) : Draft → Except DraftFault Evaluation
  | atom name => pure (.ofFact object name)
  | not inner => return .negation (← inner.evaluate object)
  | and left right => return .conjunction (← left.evaluate object) (← right.evaluate object)
  | or left right => return .disjunction (← left.evaluate object) (← right.evaluate object)
  | implies antecedent consequent => do
    let antecedentEvaluation ← antecedent.evaluate object
    let consequentEvaluation ← consequent.evaluate object
    return .implication (← antecedent.implication consequent) antecedentEvaluation
      consequentEvaluation
  | foreign value => throw (.notAFormula value)

/-- Evaluation asked of the draft itself, which plain data at the top does not offer. -/
def evaluateSelf (object : Object) (draft : Draft) : Except DraftFault Evaluation :=
  match draft.foreign? with
  | some value => throw (.cannotEvaluate value)
  | none => draft.evaluate object

/-- The names of the objects of which a draft is false, in order. -/
def failing (draft : Draft) : List Object → Except DraftFault (List String)
  | [] => pure []
  | object :: rest => do
    let evaluation ← draft.evaluateSelf object
    let others ← draft.failing rest
    return if evaluation.value then others else object.name :: others

end Draft

/-- Whether a draft is true of every object. In an empty domain it is not even looked at. -/
def Domain.forAllDraft (domain : Domain) (draft : Draft) : Except DraftFault UniversalVerdict :=
  if domain.objects.isEmpty then pure .vacuous
  else return .ofFailing (← draft.failing domain.objects)

end Connexive
