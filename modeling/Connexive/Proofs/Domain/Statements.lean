import Connexive.Proofs.Domain.Lookup
import Connexive.Proofs.Repetition

namespace Connexive.Object

/-! What a row of statements leaves in an object: of each predicate the truth stated last, in the
order in which the predicates were stated first.
-/

variable {name predicate : String} {value : Bool}

/-- The object after several statements, each of a predicate and its truth. -/
def tell (object : Object) (statements : List (String × Bool)) : Object :=
  statements.foldl (fun told statement => told.state statement.1 statement.2) object

theorem tell_concat (object : Object) (statements : List (String × Bool)) (predicate : String)
    (value : Bool) :
    object.tell (statements ++ [(predicate, value)]) =
      (object.tell statements).state predicate value :=
  List.foldl_append

@[simp] theorem name_tell (object : Object) (statements : List (String × Bool)) :
    (object.tell statements).name = object.name := by
  induction statements generalizing object with
  | nil => rfl
  | cons statement rest restIH => exact restIH (object.state statement.1 statement.2)

end Connexive.Object
