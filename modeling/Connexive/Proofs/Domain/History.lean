import Connexive.Proofs.Domain.Distinct
import Connexive.Proofs.Domain.Operation
import Mathlib.Data.Option.Basic

namespace Connexive.Workbench

/-! A bench knows what its operations have told it, and nothing else. Each operation keeps this up,
and so does a whole run. An object that has joined stays the object of its handle: what is stated
through the handle afterwards is found in the domain.
-/

variable {past : List Operation} {operation : Operation} {bench next : Workbench}
variable {handle other name predicate : String} {object otherObject : Object} {value : Value}

structure Tells (past : List Operation) (bench : Workbench) : Prop where
  statesOnlyMade : StatesOnlyMade past
  held : ∀ handle, bench.holdings.lookup handle = (told? handle past).map (holding past handle)
  keyed : (bench.holdings.map Prod.fst).Nodup
  stored : bench.domain.objects.map some = (joined past).map (told? · past)
  distinct : bench.domain.Distinct

namespace Tells

theorem initial : Tells [] empty where
  statesOnlyMade _ _ := rfl
  held _ := rfl
  keyed := List.nodup_nil
  stored := rfl
  distinct := Domain.distinct_empty

theorem mem_objects_iff (tells : Tells past bench) :
    object ∈ bench.domain.objects ↔ ∃ handle ∈ joined past, told? handle past = some object := by
  rw [← List.mem_map_of_injective (Option.some_injective _), tells.stored, List.mem_map]

theorem told?_of_joined (tells : Tells past bench) (member : handle ∈ joined past) :
    ∃ object, told? handle past = some object := by
  have inDomain : told? handle past ∈ bench.domain.objects.map some := by
    rw [tells.stored]
    exact List.mem_map_of_mem member
  obtain ⟨object, _, told⟩ := List.mem_map.mp inDomain
  exact ⟨object, told.symm⟩

/-- Members of one name are one object under one handle. -/
theorem key_eq_iff (tells : Tells past bench) (member : handle ∈ joined past)
    (otherMember : other ∈ joined past) (told : told? handle past = some object)
    (otherTold : told? other past = some otherObject) :
    object.key = otherObject.key ↔ handle = other := by
  constructor
  · intro sameKey
    have keys := congrArg (List.map (Option.map Object.key)) tells.stored
    have nodup := tells.distinct.map (Option.some_injective String)
    simp only [List.map_map, Function.comp_def, Option.map_some] at keys nodup
    rw [keys] at nodup
    refine List.inj_on_of_nodup_map nodup member otherMember ?_
    rw [told, otherTold, Option.map_some, Option.map_some, sameKey]
  · rintro rfl
    rw [told] at otherTold
    rw [Option.some.inj otherTold]

theorem object?_eq (tells : Tells past bench) (handle : String) :
    bench.object? handle = told? handle past := by
  rw [object?, tells.held]
  cases told : told? handle past with
  | none => rfl
  | some object =>
      by_cases member : handle ∈ joined past
      · have inDomain := tells.mem_objects_iff.mpr ⟨handle, member, told⟩
        simp only [Option.map_some, holding, if_pos member]
        exact tells.distinct.find?_eq_some_iff.mpr ⟨inDomain, rfl⟩
      · simp only [Option.map_some, holding, if_neg member]

theorem make (tells : Tells past bench) (unmade : bench.object? handle = none) (name : String) :
    Tells (past ++ [.make handle name]) (bench.make handle name) := by
  have unknown : told? handle past = none := (tells.object?_eq handle).symm.trans unmade
  have nameless : madeName? handle past = none := Option.map_eq_none_iff.mp unknown
  have told := told?_make nameless (tells.statesOnlyMade handle nameless) name
  have stays : joined (past ++ [.make handle name]) = joined past := joined_of_staying rfl
  have outside : handle ∉ joined past := by
    intro member
    obtain ⟨object, known⟩ := tells.told?_of_joined member
    rw [unknown] at known
    contradiction
  refine ⟨tells.statesOnlyMade.concat fun _ _ => rfl, ?_, Assoc.nodup_keys_put tells.keyed _ _, ?_,
    tells.distinct⟩
  · intro other
    rw [Workbench.make, Assoc.lookup_put, told, holding_of_staying rfl]
    split
    · next here => rw [here, Option.map_some, holding, if_neg outside]
    · exact tells.held other
  · rw [stays]
    refine tells.stored.trans (List.map_congr_left fun other member => ?_)
    have away : other ≠ handle := fun here => outside (here ▸ member)
    rw [told, if_neg away]

theorem join (tells : Tells past bench) (known : bench.object? handle = some object)
    (taken : bench.join? handle object = some next) : Tells (past ++ [.join handle]) next := by
  obtain ⟨domain, added, rfl⟩ := Option.map_eq_some_iff.mp taken
  have toldHere : told? handle past = some object := (tells.object?_eq handle).symm.trans known
  have told (other : String) : told? other (past ++ [.join handle]) = told? other past :=
    told?_of_untelling rfl rfl
  have joins : joined (past ++ [.join handle]) = joined past ++ [handle] := joined_concat _ _
  refine ⟨tells.statesOnlyMade.concat fun _ _ => rfl, ?_, Assoc.nodup_keys_put tells.keyed _ _, ?_,
    tells.distinct.add? added⟩
  · intro other
    rw [Assoc.lookup_put, told]
    split
    · next here => simp [here, toldHere, holding, joins]
    · next away => rw [tells.held, holding_join away]
  · obtain ⟨_, rfl⟩ := Domain.add?_eq_some_iff.mp added
    simp [joins, told, toldHere, tells.stored]

theorem statesOnlyMade_state (tells : Tells past bench) (toldHere : told? handle past = some object)
    (predicate : String) (value : Value) :
    StatesOnlyMade (past ++ [.state handle predicate value]) := by
  refine tells.statesOnlyMade.concat fun other unmade => if_neg fun here => ?_
  rw [told?, here, unmade] at toldHere
  contradiction

/-- What is stated through the handle of a member is stated in the domain about that member. -/
theorem state_member (tells : Tells past bench) (toldHere : told? handle past = some object)
    (member : handle ∈ joined past) (predicate : String) (value : Value) :
    Tells (past ++ [.state handle predicate value])
      { bench with domain := bench.domain.state object.name predicate value.truthy } := by
  have told (other : String) := told?_state handle predicate value other past
  have toldInDomain : ∀ other ∈ joined past,
      told? other (past ++ [.state handle predicate value]) =
        (told? other past).map fun stored =>
          if stored.key == Text.lower object.name then stored.state predicate value.truthy
          else stored := by
    intro other otherMember
    obtain ⟨stored, otherTold⟩ := tells.told?_of_joined otherMember
    have sameObject : stored.key = Text.lower object.name ↔ other = handle :=
      tells.key_eq_iff otherMember member otherTold toldHere
    simp only [told, otherTold, Option.map_some, beq_iff_eq, sameObject]
  refine ⟨tells.statesOnlyMade_state toldHere predicate value, ?_, tells.keyed, ?_,
    tells.distinct.state _ _ _⟩
  · intro other
    rw [tells.held, told, holding_of_staying rfl, Option.map_map]
    congr 1
    funext otherObject
    by_cases here : other = handle
    · simp [here, holding, member, Object.state]
    · simp [here]
  · rw [joined_of_staying rfl, List.map_congr_left toldInDomain, Domain.state, List.map_map]
    have stored := congrArg (List.map (Option.map fun stored : Object =>
      if stored.key == Text.lower object.name then stored.state predicate value.truthy
      else stored)) tells.stored
    rw [List.map_map, List.map_map] at stored
    exact stored

theorem state_loose (tells : Tells past bench) (toldHere : told? handle past = some object)
    (outside : handle ∉ joined past) (predicate : String) (value : Value) :
    Tells (past ++ [.state handle predicate value])
      { bench with
        holdings := Assoc.put handle (.loose (object.state predicate value.truthy))
          bench.holdings } := by
  have told (other : String) := told?_state handle predicate value other past
  refine ⟨tells.statesOnlyMade_state toldHere predicate value, ?_,
    Assoc.nodup_keys_put tells.keyed _ _, ?_, tells.distinct⟩
  · intro other
    rw [Assoc.lookup_put, told, holding_of_staying rfl]
    split
    · next here => simp [here, toldHere, holding, outside]
    · exact (tells.held other).trans (by simp)
  · rw [joined_of_staying rfl, tells.stored]
    refine List.map_congr_left fun other member => ?_
    have away : other ≠ handle := fun here => outside (here ▸ member)
    simp [told, away]

theorem state (tells : Tells past bench) (known : bench.object? handle = some object)
    (predicate : String) (value : Value) :
    Tells (past ++ [.state handle predicate value])
      (bench.state handle predicate value.truthy) := by
  have toldHere : told? handle past = some object := (tells.object?_eq handle).symm.trans known
  have heldHere : bench.holdings.lookup handle = some (holding past handle object) := by
    rw [tells.held, toldHere, Option.map_some]
  rw [holding] at heldHere
  by_cases member : handle ∈ joined past
  · rw [if_pos member] at heldHere
    rw [Workbench.state, heldHere]
    exact tells.state_member toldHere member predicate value
  · rw [if_neg member] at heldHere
    rw [Workbench.state, heldHere]
    exact tells.state_loose toldHere member predicate value

theorem read (tells : Tells past bench) (makes : ∀ handle, operation.made? handle = none)
    (stays : operation.joined? = none) (states : ∀ handle, operation.statement? handle = none) :
    Tells (past ++ [operation]) bench := by
  have told (handle : String) : told? handle (past ++ [operation]) = told? handle past :=
    told?_of_untelling (makes handle) (states handle)
  refine ⟨tells.statesOnlyMade.concat fun handle _ => states handle, ?_, tells.keyed, ?_,
    tells.distinct⟩
  · intro handle
    rw [told, holding_of_staying stays]
    exact tells.held handle
  · rw [joined_of_staying stays, tells.stored]
    exact List.map_congr_left fun handle _ => (told handle).symm

theorem perform (tells : Tells past bench) (performed : bench.perform? operation = some next) :
    Tells (past ++ [operation]) next := by
  cases operation with
  | make handle name =>
      rw [perform?] at performed
      split at performed
      · next unmade =>
          cases performed
          exact tells.make unmade name
      · contradiction
  | join handle =>
      obtain ⟨object, known, taken⟩ := Option.bind_eq_some_iff.mp performed
      exact tells.join known taken
  | state handle predicate value =>
      obtain ⟨object, known, rfl⟩ := Option.map_eq_some_iff.mp performed
      exact tells.state known predicate value
  | ask handle predicate =>
      obtain ⟨object, _, rfl⟩ := Option.map_eq_some_iff.mp performed
      exact tells.read (fun _ => rfl) rfl (fun _ => rfl)
  | find | checkForAll =>
      cases performed
      exact tells.read (fun _ => rfl) rfl (fun _ => rfl)

theorem run (tells : Tells past bench) (operations : List Operation) :
    Tells (past ++ bench.history operations) (bench.after operations) := by
  induction operations generalizing past bench with
  | nil => simpa only [history, after, List.append_nil] using tells
  | cons operation rest restIH =>
      rw [history, after, step]
      cases performed : bench.perform? operation with
      | none => exact restIH tells
      | some next => simpa using restIH (tells.perform performed)

end Tells

namespace Tells

theorem named (tells : Tells past bench) (handle : String) :
    (bench.object? handle).map Object.name = madeName? handle past := by
  rw [tells.object?_eq, told?, Option.map_map]
  cases madeName? handle past with
  | none => rfl
  | some name => exact congrArg some (Object.name_tell _ _)

theorem contains_iff (tells : Tells past bench) :
    bench.domain.contains name = true ↔
      ∃ object ∈ bench.domain.objects, object.key = Text.lower name := by
  simp only [Domain.contains_iff, tells.distinct.find?_eq_some_iff]

end Tells

/-- A fact that is stated after the object has joined shows in the domain, and another object of its
name in capitals is kept out. -/
example :
    let operations : List Operation := [.make "a" "Rex", .state "a" "Dog" (.bool true), .join "a",
      .make "b" "REX", .join "b", .state "a" "DOG" .null]
    joined (empty.history operations) = ["a"] ∧
      (empty.after operations).domain.render =
        "Domain State:\n  - DomainObject\x7bname='Rex', states=\x7bdog=false\x7d\x7d" := by
  decide

end Connexive.Workbench
