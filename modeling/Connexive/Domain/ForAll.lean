import Connexive.Domain.Basic
import Connexive.Formula.Evaluate

namespace Connexive

/-!
The universal quantifier. It ranges over the objects that are in the domain and nothing else, and a
claim about no object at all is false.
-/

structure UniversalVerdict where
  value : Bool
  reason : Option String
  failing : List String
  deriving DecidableEq

namespace UniversalVerdict

/-- A verdict that needs a reason is the rejection of a vacuous truth. -/
def heuristics (verdict : UniversalVerdict) : List Heuristic :=
  if verdict.reason.isSome then [.vacuousTruthRejection] else []

def vacuous : UniversalVerdict where
  value := false
  reason := some
    (Heuristic.vacuousTruthRejection.tag ++ "\n" ++ Heuristic.vacuousTruthRejection.rationale)
  failing := []

def ofFailing (failing : List String) : UniversalVerdict :=
  ⟨failing.isEmpty, none, failing⟩

end UniversalVerdict

/-- Whether a formula is true of every object, and of which it is not. -/
def Domain.forAll (domain : Domain) (formula : Formula) : UniversalVerdict :=
  if domain.objects.isEmpty then .vacuous
  else
    .ofFailing
      ((domain.objects.filter fun object => !(formula.evaluate object).value).map Object.name)

end Connexive
