import Connexive.Evaluation.Basic
import Connexive.Implication
import Connexive.Object

namespace Connexive.Evaluation

/-!
How an evaluation comes from the evaluations of the parts. Every part is evaluated and shown, also
where the value is already settled without it.
-/

open Text

def indent (line : String) : String :=
  "    " ++ line

/-- The derivation of a part, under its label and indented. -/
def nested (label : String) (part : Evaluation) : List String :=
  ("  - " ++ label ++ "...") :: part.derivation.map indent

def factLine (object : Object) (predicate : String) : String :=
  "Fact '" ++ predicate ++ "' is " ++ verdictWord (object.holds predicate) ++ " for object '" ++
    object.name ++ "'"

/-- An atom is what the object states, and false where it states nothing. -/
def ofFact (object : Object) (predicate : String) : Evaluation :=
  ((ofValue (object.holds predicate)).appendLines [factLine object predicate]).annotateIf
    (object.stated? predicate).isNone .closedWorld

def negationLine (inner : Bool) : String :=
  "NOT evaluates to " ++ truthWord (!inner) ++ " because its inner expression is " ++
    truthWord inner ++ "."

def negation (inner : Evaluation) : Evaluation :=
  ((ofValue (!inner.value)).appendLines
    (negationLine inner.value :: nested "Inner Derivation" inner)).merge inner.heuristics

def binaryLine (op : Connective) (left right value : Bool) : String :=
  "(" ++ truthWord left ++ " " ++ op.keyword ++ " " ++ truthWord right ++ ") -> " ++
    truthWord value

def binary (op : Connective) (value : Bool) (left right : Evaluation) : Evaluation :=
  (((ofValue value).appendLines
    (binaryLine op left.value right.value value ::
      nested "Left Derivation" left ++ nested "Right Derivation" right)).merge
    left.heuristics).merge right.heuristics

def conjunction (left right : Evaluation) : Evaluation :=
  binary .and (left.value && right.value) left right

def disjunction (left right : Evaluation) : Evaluation :=
  binary .or (left.value || right.value) left right

/-- An implication holds if it holds classically, stays on topic, does not lead from a negation to
what it negates, and does not also lead to the opposite of its consequent. -/
def implication (shape : Implication) (antecedent consequent : Evaluation) : Evaluation :=
  let classical := !antecedent.value || consequent.value
  let opposite := !antecedent.value || !consequent.value
  let boethiusViolation := classical && opposite
  let value :=
    classical && shape.isRelevant && shape.isAristotleCoherent && !boethiusViolation
  let diverges := value != classical
  let conditionsLine :=
    "Classical: " ++ truthWord classical ++ ", Relevant: " ++ truthWord shape.isRelevant ++
      ", Aristotle Coherent: " ++ truthWord shape.isAristotleCoherent ++
      ", Boethius Coherent: " ++ truthWord (!boethiusViolation) ++
      " -> Final: " ++ truthWord value
  let classicalLine :=
    "Classical material implication gives: " ++ truthWord classical ++
      (if diverges then " (diverges from classical logic)" else "")
  let verdict : Evaluation :=
    { ofValue value with isNonClassical := diverges, classicalValue := some classical }
  let derived :=
    ((verdict.appendLines
      (conditionsLine :: classicalLine ::
        nested "Antecedent Derivation" antecedent ++
          nested "Consequent Derivation" consequent)).merge
      antecedent.heuristics).merge consequent.heuristics
  ((derived.annotateIf (!shape.isRelevant) .relevance).annotateIf
    (!shape.isAristotleCoherent) .aristotleThesis).annotateIf boethiusViolation .boethiusThesis

end Connexive.Evaluation
