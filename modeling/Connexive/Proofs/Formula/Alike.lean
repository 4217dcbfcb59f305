import Connexive.Formula.Basic

namespace Connexive.Formula

/-! Structural equality as a relation, built with the two formulas side by side. Proofs about equal
formulas go by induction over it and never meet two different shapes.
-/

@[simp] theorem topics_atom (name : String) : (atom name).topics = [Text.lower name] := rfl

@[simp] theorem topics_not (inner : Formula) : (not inner).topics = inner.topics := rfl

@[simp] theorem topics_and (left right : Formula) :
    (and left right).topics = left.topics ++ right.topics := List.map_append

@[simp] theorem topics_or (left right : Formula) :
    (or left right).topics = left.topics ++ right.topics := List.map_append

@[simp] theorem topics_implies (antecedent consequent : Formula) :
    (implies antecedent consequent).topics = antecedent.topics ++ consequent.topics :=
  List.map_append

/-- Formulas of one shape whose atoms agree in topic, place by place. -/
inductive Alike : Formula → Formula → Prop
  | atom {name other : String} (topic : Text.lower name = Text.lower other) :
      Alike (atom name) (atom other)
  | not {inner other : Formula} (alike : Alike inner other) : Alike (not inner) (not other)
  | and {left right otherLeft otherRight : Formula}
      (leftAlike : Alike left otherLeft) (rightAlike : Alike right otherRight) :
      Alike (and left right) (and otherLeft otherRight)
  | or {left right otherLeft otherRight : Formula}
      (leftAlike : Alike left otherLeft) (rightAlike : Alike right otherRight) :
      Alike (or left right) (or otherLeft otherRight)
  | implies {left right otherLeft otherRight : Formula}
      (leftAlike : Alike left otherLeft) (rightAlike : Alike right otherRight) :
      Alike (implies left right) (implies otherLeft otherRight)

variable {first second : Formula}

theorem Alike.of_structurallyEqual (equal : first.structurallyEqual second = true) :
    Alike first second := by
  induction first generalizing second with
  | atom name =>
      cases second with
      | atom other => exact .atom (eq_of_beq equal)
      | _ => contradiction
  | not inner innerIH =>
      cases second with
      | not other => exact .not (innerIH equal)
      | _ => contradiction
  | and left right leftIH rightIH =>
      cases second with
      | and otherLeft otherRight =>
          simp only [structurallyEqual, Bool.and_eq_true] at equal
          exact .and (leftIH equal.1) (rightIH equal.2)
      | _ => contradiction
  | or left right leftIH rightIH =>
      cases second with
      | or otherLeft otherRight =>
          simp only [structurallyEqual, Bool.and_eq_true] at equal
          exact .or (leftIH equal.1) (rightIH equal.2)
      | _ => contradiction
  | implies antecedent consequent antecedentIH consequentIH =>
      cases second with
      | implies otherAntecedent otherConsequent =>
          simp only [structurallyEqual, Bool.and_eq_true] at equal
          exact .implies (antecedentIH equal.1) (consequentIH equal.2)
      | _ => contradiction

theorem Alike.structurallyEqual (alike : Alike first second) :
    first.structurallyEqual second = true := by
  induction alike with
  | atom topic => exact beq_iff_eq.mpr topic
  | not _ innerIH => exact innerIH
  | and _ _ leftIH rightIH | or _ _ leftIH rightIH | implies _ _ leftIH rightIH =>
      simp only [Formula.structurallyEqual, leftIH, rightIH, Bool.and_self]

theorem Alike.topics_eq (alike : Alike first second) : first.topics = second.topics := by
  induction alike with
  | atom topic => simp only [topics_atom, topic]
  | not _ innerIH => simp only [topics_not, innerIH]
  | and _ _ leftIH rightIH | or _ _ leftIH rightIH | implies _ _ leftIH rightIH =>
      simp only [topics_and, topics_or, topics_implies, leftIH, rightIH]

end Connexive.Formula
