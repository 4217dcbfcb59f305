import Connexive.Domain.Workbench
import Connexive.Draft.Evaluate
import Connexive.Proofs.Domain.Statements

namespace Connexive.Workbench

/-! What can be done with objects and the domain they join, one operation after another, and what
a history of operations says. A handle stands for one object for good, so an object is known by its
handle, whether it has joined the domain or not.
-/

inductive Operation
  | make (handle name : String)
  | join (handle : String)
  | state (handle predicate : String) (value : Value)
  | ask (handle predicate : String)
  | find (name : String)
  | checkForAll (draft : Draft)

/-- The bench after an operation, unless that is refused. An object is made under a new handle, and
all that is done with an object is done with one that was made. -/
def perform? (bench : Workbench) : Operation → Option Workbench
  | .make handle name =>
    match bench.object? handle with
    | none => some (bench.make handle name)
    | some _ => none
  | .join handle => (bench.object? handle).bind (bench.join? handle)
  | .state handle predicate value =>
    (bench.object? handle).map fun _ => bench.state handle predicate value.truthy
  | .ask handle _ => (bench.object? handle).map fun _ => bench
  | .find _ | .checkForAll _ => some bench

def step (bench : Workbench) (operation : Operation) : Workbench :=
  (bench.perform? operation).getD bench

def after (bench : Workbench) : List Operation → Workbench
  | [] => bench
  | operation :: rest => (bench.step operation).after rest

/-- The operations that were not refused, in order. -/
def history (bench : Workbench) : List Operation → List Operation
  | [] => []
  | operation :: rest =>
    if (bench.perform? operation).isSome then operation :: (bench.step operation).history rest
    else (bench.step operation).history rest

namespace Operation

def made? (handle : String) : Operation → Option String
  | make target name => if target = handle then some name else none
  | _ => none

def joined? : Operation → Option String
  | join handle => some handle
  | _ => none

def statement? (handle : String) : Operation → Option (String × Bool)
  | state target predicate value =>
    if target = handle then some (predicate, value.truthy) else none
  | _ => none

end Operation

variable {past : List Operation} {operation : Operation} {handle other name : String}

def madeName? (handle : String) (history : List Operation) : Option String :=
  history.findSome? (Operation.made? handle)

/-- The handles of the objects that joined, in order. -/
def joined (history : List Operation) : List String :=
  history.filterMap Operation.joined?

def statements (handle : String) (history : List Operation) : List (String × Bool) :=
  history.filterMap (Operation.statement? handle)

/-- The object of a handle, as a history tells it. -/
def told? (handle : String) (history : List Operation) : Option Object :=
  (madeName? handle history).map fun name => (Object.named name).tell (statements handle history)

theorem madeName?_concat (handle : String) (past : List Operation) (operation : Operation) :
    madeName? handle (past ++ [operation]) =
      (madeName? handle past).or (operation.made? handle) := by
  rw [madeName?, List.findSome?_append]
  cases made : operation.made? handle <;> simp [madeName?, made]

theorem joined_concat (past : List Operation) (operation : Operation) :
    joined (past ++ [operation]) = joined past ++ operation.joined?.toList := by
  rw [joined, List.filterMap_append]
  cases joins : operation.joined? <;> simp [joined, joins]

theorem statements_concat (handle : String) (past : List Operation) (operation : Operation) :
    statements handle (past ++ [operation]) =
      statements handle past ++ (operation.statement? handle).toList := by
  rw [statements, List.filterMap_append]
  cases states : operation.statement? handle <;> simp [statements, states]

theorem joined_of_staying (stays : operation.joined? = none) :
    joined (past ++ [operation]) = joined past := by
  rw [joined_concat, stays]
  exact List.append_nil _

/-- Facts are stated about objects that were made. -/
def StatesOnlyMade (history : List Operation) : Prop :=
  ∀ handle, madeName? handle history = none → statements handle history = []

theorem StatesOnlyMade.concat (statesOnlyMade : StatesOnlyMade past)
    (states : ∀ handle, madeName? handle past = none → operation.statement? handle = none) :
    StatesOnlyMade (past ++ [operation]) := by
  intro handle unmade
  rw [madeName?_concat, Option.or_eq_none_iff] at unmade
  obtain ⟨unmadeBefore, _⟩ := unmade
  rw [statements_concat, statesOnlyMade handle unmadeBefore, states handle unmadeBefore]
  rfl

/-- The object under a handle, before it has joined the domain and after. -/
def holding (past : List Operation) (handle : String) (object : Object) : Holding :=
  if handle ∈ joined past then .member object.name else .loose object

theorem holding_of_staying (stays : operation.joined? = none) :
    holding (past ++ [operation]) = holding past := by
  funext handle object
  rw [holding, holding, joined_of_staying stays]

theorem holding_join (away : other ≠ handle) :
    holding (past ++ [.join handle]) other = holding past other := by
  funext object
  simp [holding, joined_concat, Operation.joined?, away]

theorem told?_make (unmade : madeName? handle past = none) (untold : statements handle past = [])
    (name other : String) :
    told? other (past ++ [.make handle name]) =
      if other = handle then some (.named name) else told? other past := by
  rw [told?, told?, madeName?_concat, statements_concat]
  split
  · next same =>
      subst same
      simp [unmade, untold, Operation.made?, Operation.statement?, Object.tell]
  · next different =>
      simp [Operation.made?, Operation.statement?, Ne.symm different]

theorem told?_state (handle predicate : String) (value : Value) (other : String)
    (past : List Operation) :
    told? other (past ++ [.state handle predicate value]) =
      (told? other past).map fun object =>
        if other = handle then object.state predicate value.truthy else object := by
  rw [told?, told?, madeName?_concat, statements_concat]
  by_cases same : handle = other
  · simp [same, Operation.made?, Operation.statement?, Object.tell_concat, Function.comp_def]
  · simp [same, Ne.symm same, Operation.made?, Operation.statement?, Function.comp_def]

/-- Only making an object and stating a fact change what is told about objects. -/
theorem told?_of_untelling (makes : operation.made? other = none)
    (states : operation.statement? other = none) :
    told? other (past ++ [operation]) = told? other past := by
  rw [told?, told?, madeName?_concat, statements_concat, makes, states]
  simp

end Connexive.Workbench
