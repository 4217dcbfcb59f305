import Connexive.Evaluation.Compound

namespace Connexive

/-- The value of a formula for one object, with its derivation. -/
def Formula.evaluate (object : Object) : Formula → Evaluation
  | atom name => .ofFact object name
  | not inner => .negation (inner.evaluate object)
  | and left right => .conjunction (left.evaluate object) (right.evaluate object)
  | or left right => .disjunction (left.evaluate object) (right.evaluate object)
  | implies antecedent consequent =>
    .implication (antecedent.implication consequent) (antecedent.evaluate object)
      (consequent.evaluate object)

end Connexive
