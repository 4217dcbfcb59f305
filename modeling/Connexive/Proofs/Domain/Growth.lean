import Connexive.Proofs.Domain.History
import Connexive.Proofs.Domain.Universal

namespace Connexive

/-! A universal check while its domain grows. What one more object changes is settled by that object
alone, and the first one also ends the rejection of the claim as vacuous. A fact changes nothing if
the formula does not speak of it, or if it is about an object outside the domain.
-/

variable {formula : Formula} {predicate : String}

theorem Formula.truth_state_off_topic (offTopic : Text.lower predicate ∉ formula.topics)
    (object : Object) (value : Bool) :
    formula.truth (object.state predicate value) = formula.truth object := by
  apply truth_congr
  intro name member
  have apart : Text.lower name ≠ Text.lower predicate := by
    intro same
    exact offTopic (same ▸ List.mem_map_of_mem member)
  rw [Object.holds_state, if_neg apart]

namespace Domain

variable {domain next : Domain} {object : Object}

theorem isEmpty_failing (domain : Domain) (formula : Formula) :
    (domain.forAll formula).failing.isEmpty =
      (domain.objects.isEmpty || (domain.forAll formula).value) := by
  obtain ⟨objects⟩ := domain
  cases objects <;> rfl

theorem forAll_add? (added : domain.add? object = some next) (formula : Formula) :
    next.forAll formula =
      { value := (domain.objects.isEmpty || (domain.forAll formula).value) &&
          (formula.evaluate object).value
        reason := none
        failing := (domain.forAll formula).failing ++
          if (formula.evaluate object).value then [] else [object.name] } := by
  obtain ⟨_, rfl⟩ := add?_eq_some_iff.mp added
  have grown : (⟨domain.objects ++ [object]⟩ : Domain).forAll formula =
      .ofFailing ((domain.forAll formula).failing ++
        if (formula.evaluate object).value then [] else [object.name]) := by
    rw [failing_forAll, forAll, if_neg (by simp), List.filter_append, List.map_append]
    simp only [Formula.evaluate_value]
    cases holds : formula.truth object <;> simp [holds]
  rw [grown, UniversalVerdict.ofFailing, ← isEmpty_failing]
  cases (formula.evaluate object).value <;> simp

/-- A check looks at nothing but the names of the members and the truth of the formula. -/
theorem forAll_map_objects {change : Object → Object}
    (sameName : ∀ object, (change object).name = object.name)
    (sameTruth : ∀ object, formula.truth (change object) = formula.truth object)
    (domain : Domain) :
    (⟨domain.objects.map change⟩ : Domain).forAll formula = domain.forAll formula := by
  simp only [forAll, List.isEmpty_map, List.filter_map, List.map_map, Function.comp_def,
    Formula.evaluate_value, sameName, sameTruth]

theorem forAll_state_off_topic (offTopic : Text.lower predicate ∉ formula.topics)
    (domain : Domain) (name : String) (value : Bool) :
    (domain.state name predicate value).forAll formula = domain.forAll formula := by
  apply forAll_map_objects
  · intro object
    split <;> rfl
  · intro object
    split
    · exact Formula.truth_state_off_topic offTopic object value
    · rfl

end Domain

namespace Workbench

variable {past : List Operation} {bench next : Workbench} {handle : String} {object : Object}

theorem domain_join (known : bench.object? handle = some object)
    (joined : bench.perform? (.join handle) = some next) :
    bench.domain.add? object = some next.domain := by
  rw [perform?, known, Option.bind_some] at joined
  obtain ⟨domain, added, rfl⟩ := Option.map_eq_some_iff.mp joined
  exact added

/-- Stating a fact leaves the domain alone or states the fact in the domain. -/
theorem domain_state (bench : Workbench) (handle predicate : String) (value : Bool) :
    (bench.state handle predicate value).domain = bench.domain ∨
      ∃ name, (bench.state handle predicate value).domain =
        bench.domain.state name predicate value := by
  rw [state]
  split
  · exact .inl rfl
  · exact .inl rfl
  · next name _ => exact .inr ⟨name, rfl⟩

theorem step_state (bench : Workbench) (handle predicate : String) (value : Value) :
    bench.step (.state handle predicate value) = bench ∨
      bench.step (.state handle predicate value) = bench.state handle predicate value.truthy := by
  rw [step, perform?]
  cases bench.object? handle with
  | none => exact .inl rfl
  | some object => exact .inr rfl

theorem Tells.domain_state_outside (tells : Tells past bench) (outside : handle ∉ joined past)
    (predicate : String) (value : Bool) :
    (bench.state handle predicate value).domain = bench.domain := by
  rw [Workbench.state, tells.held]
  cases told? handle past with
  | none => rfl
  | some object => rw [Option.map_some, holding, if_neg outside]

/-- One more object is one more case of a universal claim: the verdict gains its name if the formula
is false of it, and nothing else. A refused object, a fact about an object outside and a fact off
topic all leave the verdict as it is. -/
theorem forAll_incremental (operations : List Operation) (formula : Formula) :
    let history := empty.history operations
    let bench := empty.after operations
    let verdict := bench.domain.forAll formula
    (∀ handle object next, bench.object? handle = some object →
      bench.perform? (.join handle) = some next →
      next.domain.forAll formula =
        { value := (bench.domain.objects.isEmpty || verdict.value) &&
            (formula.evaluate object).value
          reason := none
          failing := verdict.failing ++
            if (formula.evaluate object).value then [] else [object.name] }) ∧
    (∀ handle, bench.perform? (.join handle) = none →
      (bench.step (.join handle)).domain.forAll formula = verdict) ∧
    ∀ handle predicate value, handle ∉ joined history ∨ Text.lower predicate ∉ formula.topics →
      (bench.step (.state handle predicate value)).domain.forAll formula = verdict := by
  intro history bench verdict
  have tells : Tells history bench := Tells.initial.run operations
  refine ⟨fun handle object next known joins => ?_, fun handle refused => ?_,
    fun handle predicate value untouched => ?_⟩
  · exact Domain.forAll_add? (domain_join known joins) formula
  · rw [step, refused]
    rfl
  · rcases step_state bench handle predicate value with same | stated
    · rw [same]
    · rw [stated]
      rcases untouched with outside | offTopic
      · rw [tells.domain_state_outside outside]
      · rcases domain_state bench handle predicate value.truthy with same | ⟨name, changed⟩
        · rw [same]
        · rw [changed]
          exact Domain.forAll_state_off_topic offTopic _ _ _

/-- An object with a fact stated before it joins is the first one and makes the claim true. The next
one is refused for its name, and what is stated about it stays outside. A third one makes the claim
false. -/
theorem forAll_incremental_from_empty :
    let one : List Operation := [.make "a" "Rex", .state "a" "Dog" (.bool true)]
    let two : List Operation := one ++ [.join "a", .make "b" "REX", .make "c" "Tom"]
    let formula : Formula := .atom "dog"
    let first := empty.after one
    let bench := empty.after two
    (first.domain.forAll formula).value = false ∧
      ((first.step (.join "a")).domain.forAll formula).value = true ∧
      ((first.step (.join "a")).domain.forAll formula).reason = none ∧
      bench.perform? (.join "b") = none ∧
      (bench.step (.join "b")).domain.forAll formula = bench.domain.forAll formula ∧
      "b" ∉ joined (empty.history two) ∧
      (bench.step (.state "b" "dog" .null)).domain.forAll formula = bench.domain.forAll formula ∧
      Text.lower "Cat" ∉ formula.topics ∧
      (bench.step (.state "a" "Cat" .null)).domain.forAll formula = bench.domain.forAll formula ∧
      ((bench.step (.join "c")).domain.forAll formula).failing = ["Tom"] := by
  intro one two formula first bench
  obtain ⟨firstJoins, _, _⟩ := forAll_incremental one formula
  obtain ⟨joins, refuses, states⟩ := forAll_incremental two formula
  have grown := firstJoins "a" _ _ rfl rfl
  have grownAgain := joins "c" _ _ rfl rfl
  have refused : bench.perform? (.join "b") = none := rfl
  have outside : "b" ∉ joined (empty.history two) := by decide
  have offTopic : Text.lower "Cat" ∉ formula.topics := by decide
  refine ⟨rfl, congrArg UniversalVerdict.value grown, congrArg UniversalVerdict.reason grown, refused,
    refuses "b" refused, outside, states "b" "dog" .null (.inl outside), offTopic,
    states "a" "Cat" .null (.inr offTopic), congrArg UniversalVerdict.failing grownAgain⟩

end Workbench

end Connexive
