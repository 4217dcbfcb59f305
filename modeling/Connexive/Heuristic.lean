namespace Connexive

/-- The places where this logic departs from classical rules. -/
inductive Heuristic
  | closedWorld
  | vacuousTruthRejection
  | relevance
  | aristotleThesis
  | boethiusThesis
  deriving DecidableEq

namespace Heuristic

def title : Heuristic → String
  | closedWorld => "Closed-World Assumption"
  | vacuousTruthRejection => "Rejection of Vacuous Truth"
  | relevance => "Relevance Logic"
  | aristotleThesis => "Connexive Logic (Aristotle's Thesis)"
  | boethiusThesis => "Connexive Logic (Boethius's Thesis)"

/-- The line that introduces the heuristic in a derivation. -/
def tag (heuristic : Heuristic) : String :=
  "[Heuristic: " ++ heuristic.title ++ "]"

/-- The line after the tag. -/
def rationale : Heuristic → String
  | closedWorld =>
    "The fact was not explicitly set to TRUE, so it is assumed to be FALSE. " ++
    "Classical logic might consider its truth value 'unknown'."
  | vacuousTruthRejection =>
    "The result is FALSE because the domain of objects is empty. " ++
    "Universal claims about nothing are not considered true in this logic."
  | relevance =>
    "Implication failed. The consequent cannot introduce new topics " ++
    "(predicates) that were not present in the antecedent."
  | aristotleThesis =>
    "Implication failed. A proposition cannot be implied by its own " ++
    "negation (form: NOT P -> P)."
  | boethiusThesis =>
    "Implication failed. An antecedent cannot imply both a proposition and " ++
    "its negation (form: (A -> C) and (A -> NOT C))."

end Heuristic

end Connexive
