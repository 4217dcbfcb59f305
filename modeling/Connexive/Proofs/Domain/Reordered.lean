import Connexive.Proofs.Domain.Lookup
import Connexive.Proofs.Formula.Derivation
import Connexive.Domain.ForAll
import Mathlib.Data.List.Forall2

namespace Connexive

/-! Facts stated in another order. Two statements about different predicates or different objects
leave the same facts whichever comes first, up to the place at which they are kept. No lookup sees
that place, so neither does an evaluation or a universal check.
-/

variable {object other : Object} {domain reordered : Domain} {formula : Formula}
  {name otherName predicate otherPredicate : String}

namespace Object

theorem state_state (object : Object) (predicate : String) (value earlier : Bool) :
    (object.state predicate earlier).state predicate value = object.state predicate value := by
  simp only [state, Assoc.put_put]

/-- Objects that differ at most in the order of their facts. -/
structure Reordered (object other : Object) : Prop where
  sameName : object.name = other.name
  sameFacts : object.facts.Perm other.facts
  stated : ∀ predicate, object.stated? predicate = other.stated? predicate

theorem Reordered.refl (object : Object) : object.Reordered object :=
  ⟨rfl, .refl _, fun _ => rfl⟩

theorem state_comm (apart : Text.lower predicate ≠ Text.lower otherPredicate) (object : Object)
    (value otherValue : Bool) :
    ((object.state predicate value).state otherPredicate otherValue).Reordered
      ((object.state otherPredicate otherValue).state predicate value) where
  sameName := rfl
  sameFacts := Assoc.put_comm apart.symm ..
  stated := fun sought => by
    simp only [stated?_state]
    by_cases here : Text.lower sought = Text.lower predicate
    · rw [if_pos here, if_neg fun there => apart (here.symm.trans there), if_pos here]
    · rw [if_neg here, if_neg here]

theorem key_stated_if (condition : Bool) (object : Object) (predicate : String) (value : Bool) :
    (if condition then object.state predicate value else object).key = object.key := by
  cases condition <;> rfl

theorem Reordered.key_eq (reordered : object.Reordered other) : object.key = other.key :=
  congrArg Text.lower reordered.sameName

theorem Reordered.evaluate (reordered : object.Reordered other) (formula : Formula) :
    formula.evaluate object = formula.evaluate other :=
  Formula.evaluate_congr reordered.sameName fun name _ => reordered.stated name

end Object

namespace Domain

/-- Domains of the same objects in the same order, up to the order of the facts in each. -/
def Reordered (domain reordered : Domain) : Prop :=
  List.Forall₂ Object.Reordered domain.objects reordered.objects

theorem state_state (domain : Domain) (name predicate : String) (value earlier : Bool) :
    (domain.state name predicate earlier).state name predicate value =
      domain.state name predicate value := by
  rw [state, state, state, List.map_map]
  apply congrArg Domain.mk
  apply List.map_congr_left
  intro object _
  rw [Function.comp_apply, Object.key_stated_if]
  split
  · exact object.state_state predicate value earlier
  · rfl

theorem state_comm
    (apart : Text.lower name ≠ Text.lower otherName ∨
      Text.lower predicate ≠ Text.lower otherPredicate)
    (domain : Domain) (value otherValue : Bool) :
    ((domain.state name predicate value).state otherName otherPredicate otherValue).Reordered
      ((domain.state otherName otherPredicate otherValue).state name predicate value) := by
  simp only [Reordered, state, List.map_map, List.forall₂_map_left_iff, List.forall₂_map_right_iff,
    List.forall₂_same, Function.comp_apply, Object.key_stated_if]
  intro object _
  cases here : object.key == Text.lower name with
  | false =>
      simp only [Bool.false_eq_true, if_false]
      exact .refl _
  | true =>
      cases there : object.key == Text.lower otherName with
      | false =>
          simp only [Bool.false_eq_true, if_false]
          exact .refl _
      | true =>
          -- Both statements are about this object, so they are about different predicates.
          have sameObject := (eq_of_beq here).symm.trans (eq_of_beq there)
          exact object.state_comm (apart.resolve_left fun differ => differ sameObject) _ _

theorem Reordered.find? (reorders : domain.Reordered reordered) (name : String) :
    Option.Rel Object.Reordered (domain.find? name) (reordered.find? name) := by
  obtain ⟨objects⟩ := domain
  obtain ⟨others⟩ := reordered
  have pairs : List.Forall₂ Object.Reordered objects others := reorders
  rw [Domain.find?, Domain.find?]
  clear reorders
  induction pairs with
  | nil => exact .none
  | cons first rest restIH =>
      rw [List.find?_cons, List.find?_cons, first.key_eq]
      split
      · exact .some first
      · exact restIH

theorem Reordered.failing_eq {objects others : List Object}
    (pairs : List.Forall₂ Object.Reordered objects others) (formula : Formula) :
    (objects.filter fun object => !(formula.evaluate object).value).map Object.name =
      (others.filter fun object => !(formula.evaluate object).value).map Object.name := by
  induction pairs with
  | nil => rfl
  | cons first rest restIH =>
      rw [List.filter_cons, List.filter_cons, first.evaluate formula]
      split
      · rw [List.map_cons, List.map_cons, first.sameName, restIH]
      · exact restIH

theorem Reordered.forAll (reorders : domain.Reordered reordered) (formula : Formula) :
    domain.forAll formula = reordered.forAll formula := by
  have pairs : List.Forall₂ Object.Reordered domain.objects reordered.objects := reorders
  have sameEmpty : domain.objects.isEmpty = reordered.objects.isEmpty := by
    rw [Bool.eq_iff_iff, List.isEmpty_iff_length_eq_zero, List.isEmpty_iff_length_eq_zero,
      pairs.length_eq]
  rw [Domain.forAll, Domain.forAll, sameEmpty, failing_eq pairs]

end Domain

end Connexive
