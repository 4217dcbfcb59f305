import Connexive.Formula.Basic
import Connexive.Implication
import Connexive.Value

namespace Connexive

/-!
Formulas under construction, in which plain data may still stand where a part of the formula should
be. Every operation on formulas has its counterpart here, which fails at the leftmost such place.
-/

inductive Draft
  | atom (name : String)
  | not (inner : Draft)
  | and (left right : Draft)
  | or (left right : Draft)
  | implies (antecedent consequent : Draft)
  | foreign (value : Value)

/-- What is wrong with a draft. The first names a value that is no part of a formula, the second
a value that was asked to evaluate itself. -/
inductive DraftFault
  | notAFormula (value : Value)
  | cannotEvaluate (value : Value)

def DraftFault.message : DraftFault → String
  | notAFormula value => "Not an expression node: " ++ value.kind
  | cannotEvaluate value => "'" ++ value.kind ++ "' object has no attribute 'evaluate'"

namespace Draft

def ofFormula : Formula → Draft
  | .atom name => atom name
  | .not inner => not (ofFormula inner)
  | .and left right => and (ofFormula left) (ofFormula right)
  | .or left right => or (ofFormula left) (ofFormula right)
  | .implies antecedent consequent => implies (ofFormula antecedent) (ofFormula consequent)

/-- The data at the top, if the draft is nothing else. -/
def foreign? : Draft → Option Value
  | foreign value => some value
  | _ => none

/-- The leftmost data that is no part of a formula. -/
def firstForeign? : Draft → Option Value
  | atom _ => none
  | not inner => inner.firstForeign?
  | and left right | or left right | implies left right =>
    left.firstForeign?.or right.firstForeign?
  | foreign value => some value

def render : Draft → Except DraftFault String
  | atom name => pure (renderName name)
  | not inner => return Connective.not.renderBefore (← inner.render)
  | and left right => return Connective.and.renderBetween (← left.render) (← right.render)
  | or left right => return Connective.or.renderBetween (← left.render) (← right.render)
  | implies antecedent consequent =>
    return Connective.implies.renderBetween (← antecedent.render) (← consequent.render)
  | foreign value => throw (.notAFormula value)

def topics : Draft → Except DraftFault (List String)
  | atom name => pure [Text.lower name]
  | not inner => inner.topics
  | and left right | or left right | implies left right =>
    return (← left.topics) ++ (← right.topics)
  | foreign value => throw (.notAFormula value)

/-- Equality of shape and of topics. Data is unequal to everything, itself included. -/
def structurallyEqual : Draft → Draft → Bool
  | atom first, atom second => Text.lower first == Text.lower second
  | not first, not second => structurallyEqual first second
  | and left right, and otherLeft otherRight =>
    structurallyEqual left otherLeft && structurallyEqual right otherRight
  | or left right, or otherLeft otherRight =>
    structurallyEqual left otherLeft && structurallyEqual right otherRight
  | implies left right, implies otherLeft otherRight =>
    structurallyEqual left otherLeft && structurallyEqual right otherRight
  | _, _ => false

/-- Equality of shape and of names as written, where data is part of a draft. -/
def same : Draft → Draft → Bool
  | atom first, atom second => first == second
  | not first, not second => same first second
  | and left right, and otherLeft otherRight => same left otherLeft && same right otherRight
  | or left right, or otherLeft otherRight => same left otherLeft && same right otherRight
  | implies left right, implies otherLeft otherRight => same left otherLeft && same right otherRight
  | foreign value, foreign other => value.same other
  | _, _ => false

/-- Equality of shape and of names as written. Data is compared as data. -/
def identical : Draft → Draft → Bool
  | foreign value, foreign other => value.equals other
  | first, second => first.same second

/-- False exactly when the first draft is the negation of the second. -/
def aristotleCoherent (antecedent consequent : Draft) : Bool :=
  match antecedent with
  | not inner => !inner.structurallyEqual consequent
  | _ => true

def implication (antecedent consequent : Draft) : Except DraftFault Implication :=
  return .ofTopics (← antecedent.topics) (← consequent.topics)
    (antecedent.aristotleCoherent consequent)

end Draft

end Connexive
