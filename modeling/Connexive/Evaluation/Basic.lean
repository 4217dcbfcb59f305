import Connexive.Heuristic

namespace Connexive

/-!
The outcome of evaluating a formula for one object, with the derivation that explains it. Only an
implication has a classical value to compare with.
-/

structure Evaluation where
  value : Bool
  derivation : List String
  isNonClassical : Bool
  classicalValue : Option Bool
  heuristics : List Heuristic
  deriving DecidableEq

namespace Evaluation

def ofValue (value : Bool) : Evaluation where
  value := value
  derivation := []
  isNonClassical := false
  classicalValue := none
  heuristics := []

/-- The heuristics with those of `more` that are new, in order, at the end. -/
def mergeHeuristics (heuristics : List Heuristic) : List Heuristic → List Heuristic
  | [] => heuristics
  | heuristic :: more =>
    mergeHeuristics
      (if heuristics.contains heuristic then heuristics else heuristics ++ [heuristic]) more

def merge (evaluation : Evaluation) (heuristics : List Heuristic) : Evaluation :=
  { evaluation with heuristics := mergeHeuristics evaluation.heuristics heuristics }

def appendLines (evaluation : Evaluation) (lines : List String) : Evaluation :=
  { evaluation with derivation := evaluation.derivation ++ lines }

/-- Adds the tag and the rationale of a heuristic to the derivation. -/
def annotate (evaluation : Evaluation) (heuristic : Heuristic) (rationale : String) : Evaluation :=
  (evaluation.appendLines [heuristic.tag, rationale]).merge [heuristic]

/-- Annotates with the heuristic's own rationale, if `applies`. -/
def annotateIf (applies : Bool) (heuristic : Heuristic) (evaluation : Evaluation) : Evaluation :=
  if applies then evaluation.annotate heuristic heuristic.rationale else evaluation

/-- The derivation as one text. -/
def explanation (evaluation : Evaluation) : String :=
  "\n".intercalate evaluation.derivation

end Evaluation

end Connexive
