import Connexive.Text.Case

namespace Connexive

/-!
Formulas of the logic. An atom is the name of a fact about one object; two atoms are about the same
fact when their names agree in lower case. A topic is such a lower-case name.
-/

inductive Connective
  | not
  | and
  | or
  | implies
  deriving DecidableEq

namespace Connective

def keyword : Connective → String
  | .not => "NOT"
  | .and => "AND"
  | .or => "OR"
  | .implies => "RELEVANTLY_IMPLIES"

/-- The higher one binds its operands tighter. -/
def precedence : Connective → Nat
  | .not => 4
  | .and => 3
  | .or => 2
  | .implies => 1

end Connective

/-- A formula about one object. The implication is the relevant one, not the material one. -/
inductive Formula
  | atom (name : String)
  | not (inner : Formula)
  | and (left right : Formula)
  | or (left right : Formula)
  | implies (antecedent consequent : Formula)
  deriving DecidableEq

/-- The canonical text of two operands under a connective. -/
def Connective.renderBetween (connective : Connective) (left right : String) : String :=
  "(" ++ left ++ " " ++ connective.keyword ++ " " ++ right ++ ")"

/-- The canonical text of an operand under a negation. -/
def Connective.renderBefore (connective : Connective) (inner : String) : String :=
  "(" ++ connective.keyword ++ " " ++ inner ++ ")"

/-- The canonical text of an atom. The name stands as it is: a quote inside it is not escaped. -/
def renderName (name : String) : String :=
  "\"" ++ name ++ "\""

namespace Formula

/-- The canonical text: every compound in parentheses, every atom in double quotes. -/
def render : Formula → String
  | atom name => renderName name
  | not inner => Connective.not.renderBefore inner.render
  | and left right => Connective.and.renderBetween left.render right.render
  | or left right => Connective.or.renderBetween left.render right.render
  | implies antecedent consequent =>
    Connective.implies.renderBetween antecedent.render consequent.render

/-- The names of the atoms from left to right, as written. -/
def names : Formula → List String
  | atom name => [name]
  | not inner => inner.names
  | and left right => left.names ++ right.names
  | or left right => left.names ++ right.names
  | implies antecedent consequent => antecedent.names ++ consequent.names

/-- The topics of the atoms from left to right, with repetition. -/
def topics (formula : Formula) : List String :=
  formula.names.map Text.lower

/-- Equality of shape and of topics: the case of a name does not count. -/
def structurallyEqual : Formula → Formula → Bool
  | atom first, atom second => Text.lower first == Text.lower second
  | not first, not second => structurallyEqual first second
  | and left right, and otherLeft otherRight =>
    structurallyEqual left otherLeft && structurallyEqual right otherRight
  | or left right, or otherLeft otherRight =>
    structurallyEqual left otherLeft && structurallyEqual right otherRight
  | implies left right, implies otherLeft otherRight =>
    structurallyEqual left otherLeft && structurallyEqual right otherRight
  | _, _ => false

end Formula

end Connexive
