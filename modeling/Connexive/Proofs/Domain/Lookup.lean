import Connexive.Domain.Basic

namespace Connexive

/-! What a lookup finds after an update: the new value under its own key, and what was there under
every other one. Only an addition changes the names of a domain.
-/

namespace Object

@[simp] theorem stated?_named (name predicate : String) : (named name).stated? predicate = none :=
  rfl

theorem stated?_of_lower_eq {name predicate : String} (object : Object)
    (same : Text.lower name = Text.lower predicate) :
    object.stated? name = object.stated? predicate := by
  rw [stated?, stated?, same]

theorem holds_of_lower_eq {name predicate : String} (object : Object)
    (same : Text.lower name = Text.lower predicate) :
    object.holds name = object.holds predicate := by
  rw [holds, holds, object.stated?_of_lower_eq same]

theorem stated?_eq_none_iff {object : Object} {predicate : String} :
    object.stated? predicate = none ↔ Text.lower predicate ∉ object.facts.map Prod.fst := by
  simp only [stated?, List.lookup_eq_none_iff, List.mem_map, bne_iff_ne, not_exists, not_and]
  exact ⟨fun apart fact member same => apart fact member same.symm,
    fun apart fact member same => apart fact member same.symm⟩

theorem stated?_state (object : Object) (predicate sought : String) (value : Bool) :
    (object.state predicate value).stated? sought =
      if Text.lower sought = Text.lower predicate then some value else object.stated? sought :=
  Assoc.lookup_put _ _ _ _

theorem holds_state (object : Object) (predicate sought : String) (value : Bool) :
    (object.state predicate value).holds sought =
      if Text.lower sought = Text.lower predicate then value else object.holds sought := by
  rw [holds, stated?_state]
  split <;> rfl

end Object

namespace Domain

variable {domain next : Domain} {object : Object} {name sought : String}

theorem contains_iff : domain.contains name = true ↔ ∃ object, domain.find? name = some object := by
  rw [contains, Option.isSome_iff_exists]

theorem contains_of_mem_names (member : name ∈ domain.names) : domain.contains name = true := by
  obtain ⟨object, inDomain, rfl⟩ := List.mem_map.mp member
  rw [contains, find?, List.find?_isSome]
  exact ⟨object, inDomain, beq_self_eq_true _⟩

theorem find?_key (found : domain.find? name = some object) : object.key = Text.lower name := by
  have matched := List.find?_some found
  exact eq_of_beq matched

theorem add?_eq_some_iff :
    domain.add? object = some next ↔
      domain.find? object.name = none ∧ next = ⟨domain.objects ++ [object]⟩ := by
  rw [add?]
  cases found : domain.find? object.name <;> simp [contains, found, eq_comm]

theorem add?_eq_none_iff : domain.add? object = none ↔ domain.contains object.name = true := by
  rw [add?]
  split <;> simp [*]

theorem names_add? (added : domain.add? object = some next) :
    next.names = domain.names ++ [object.name] := by
  obtain ⟨_, rfl⟩ := add?_eq_some_iff.mp added
  simp [names]

/-- What a statement leaves as it is in every object, it leaves as it is in the domain. -/
theorem map_objects_state {α : Type} {view : Object → α}
    (kept : ∀ object predicate value, view (Object.state object predicate value) = view object)
    (domain : Domain) (name predicate : String) (value : Bool) :
    (domain.state name predicate value).objects.map view = domain.objects.map view := by
  rw [state, List.map_map]
  congr 1
  funext object
  rw [Function.comp_apply]
  split
  · exact kept object predicate value
  · rfl

theorem names_state (domain : Domain) (name predicate : String) (value : Bool) :
    (domain.state name predicate value).names = domain.names :=
  map_objects_state (fun _ _ _ => rfl) domain name predicate value

/-- A new object comes last, so it is found only where nothing was found before. -/
theorem find?_add? (added : domain.add? object = some next) :
    next.find? sought =
      (domain.find? sought).or (if object.key = Text.lower sought then some object else none) := by
  obtain ⟨_, rfl⟩ := add?_eq_some_iff.mp added
  rw [find?, find?, List.find?_append]
  by_cases same : object.key = Text.lower sought <;> simp [same]

theorem find?_state (domain : Domain) (name predicate sought : String) (value : Bool) :
    (domain.state name predicate value).find? sought =
      (domain.find? sought).map fun object =>
        if Text.lower sought = Text.lower name then object.state predicate value else object := by
  have sameKey (object : Object) :
      (if object.key == Text.lower name then object.state predicate value else object).key =
        object.key := by
    split <;> rfl
  simp only [find?, state, List.find?_map, Function.comp_def, sameKey]
  cases found : domain.objects.find? (·.key == Text.lower sought) with
  | none => rfl
  | some object =>
      have key := find?_key found
      simp only [Option.map_some, key, beq_iff_eq]

end Domain

end Connexive
