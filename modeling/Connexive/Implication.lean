import Connexive.Formula.Basic

namespace Connexive

/-!
What the shape of an implication settles before any fact is looked at: whether the consequent stays
within the topics of the antecedent, and whether the antecedent is the negation of the consequent.
-/

namespace Text

/-- A list in rising code-point order without repetition stays so when `text` joins it. -/
def insertSorted (text : String) : List String → List String
  | [] => [text]
  | first :: rest =>
    if text < first then text :: first :: rest
    else if text = first then first :: rest
    else first :: insertSorted text rest

/-- The different texts of a list, in code-point order. -/
def sortedSet (texts : List String) : List String :=
  texts.foldr insertSorted []

end Text

structure Implication where
  antecedentTopics : List String
  consequentTopics : List String
  isRelevant : Bool
  isAristotleCoherent : Bool

namespace Implication

/-- The topics that only the consequent has, each once and in code-point order. -/
def newTopics (implication : Implication) : List String :=
  Text.sortedSet (implication.consequentTopics.filter fun topic =>
    !implication.antecedentTopics.contains topic)

def ofTopics (antecedentTopics consequentTopics : List String) (coherent : Bool) : Implication where
  antecedentTopics := antecedentTopics
  consequentTopics := consequentTopics
  isRelevant := consequentTopics.all antecedentTopics.contains
  isAristotleCoherent := coherent

end Implication

/-- False exactly when the first formula is the negation of the second. -/
def Formula.aristotleCoherent (antecedent consequent : Formula) : Bool :=
  match antecedent with
  | .not inner => !inner.structurallyEqual consequent
  | _ => true

def Formula.implication (antecedent consequent : Formula) : Implication :=
  .ofTopics antecedent.topics consequent.topics (antecedent.aristotleCoherent consequent)

end Connexive
