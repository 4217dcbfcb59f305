import Connexive.Proofs.Domain.Distinct
import Connexive.Proofs.Text.Capitals

namespace Connexive

/-! Names put in capitals. A domain tells names apart by their lower-case forms, so a name in small
letters always leads to its object and its fact, and a name in capitals leads there exactly where
every letter of it comes back from its capital.
-/

open Text (lower upper survivesCapitals)

namespace Object

theorem holds_state_lower (object : Object) (predicate : String) (value : Bool) :
    (object.state predicate value).holds (lower predicate) = value := by
  rw [holds_state, if_pos (Text.lower_lower predicate)]

theorem holds_state_upper_iff (object : Object) (predicate : String) :
    (∀ value, (object.state predicate value).holds (upper predicate) = value) ↔
      survivesCapitals predicate = true := by
  simp only [holds_state, Text.lower_upper_eq_iff]
  constructor
  · intro answered
    -- What holds of the capitals anyway cannot follow the value that is stated.
    by_contra lost
    have stuck := answered (!object.holds (upper predicate))
    rw [if_neg lost] at stuck
    simp at stuck
  · intro survives value
    rw [if_pos survives]

end Object

namespace Domain

variable {domain : Domain} {object : Object}

theorem Distinct.find?_lower (distinct : domain.Distinct) (member : object ∈ domain.objects) :
    domain.find? (lower object.name) = some object :=
  distinct.find?_eq_some_iff.mpr ⟨member, (Text.lower_lower object.name).symm⟩

theorem Distinct.find?_upper_iff (distinct : domain.Distinct) (member : object ∈ domain.objects) :
    domain.find? (upper object.name) = some object ↔ survivesCapitals object.name = true := by
  rw [distinct.find?_eq_some_iff, ← Text.lower_upper_eq_iff, Object.key, eq_comm]
  exact and_iff_right member

/-- An object named by the capitals of a member is refused where they lead back to that member, and
otherwise only for the sake of another one. -/
theorem add?_upper_iff (member : object ∈ domain.objects) {twin : Object}
    (named : twin.name = upper object.name) :
    domain.add? twin = none ↔ survivesCapitals object.name = true ∨
      ∃ other ∈ domain.objects, other ≠ object ∧ other.key = twin.key := by
  have own : object.key = twin.key ↔ survivesCapitals object.name = true := by
    rw [Object.key, Object.key, named, eq_comm, Text.lower_upper_eq_iff]
  rw [add?_eq_none_iff, contains_iff_mem_keys, List.mem_map, ← own]
  constructor
  · rintro ⟨other, otherMember, sameKey⟩
    by_cases same : other = object
    · exact .inl (same ▸ sameKey)
    · exact .inr ⟨other, otherMember, same, sameKey⟩
  · rintro (sameKey | ⟨other, otherMember, _, sameKey⟩)
    · exact ⟨object, member, sameKey⟩
    · exact ⟨other, otherMember, sameKey⟩

/-- Small letters lead to every member and to every stated fact. Capitals lead there if and only if
each letter of the name comes back from its capital. -/
theorem capitals_lead_back_iff (reachable : domain.Reachable) (member : object ∈ domain.objects) :
    domain.find? (lower object.name) = some object ∧
      (domain.find? (upper object.name) = some object ↔ survivesCapitals object.name = true) ∧
      (∀ twin : Object, twin.name = upper object.name →
        (domain.add? twin = none ↔ survivesCapitals object.name = true ∨
          ∃ other ∈ domain.objects, other ≠ object ∧ other.key = twin.key)) ∧
      ∀ (subject : Object) (predicate : String),
        (∀ value, (subject.state predicate value).holds (lower predicate) = value) ∧
          ((∀ value, (subject.state predicate value).holds (upper predicate) = value) ↔
            survivesCapitals predicate = true) := by
  refine ⟨reachable.distinct.find?_lower member, reachable.distinct.find?_upper_iff member,
    fun _ => add?_upper_iff member, fun subject predicate => ⟨?_, ?_⟩⟩
  · exact subject.holds_state_lower predicate
  · exact subject.holds_state_upper_iff predicate

/-- The sigmas within the word and the one at its end have the forms that their places ask for. -/
theorem capitals_lead_back_to_odysseus :
    (⟨[.named "Οδυσσεύς"]⟩ : Domain).Reachable ∧
      (⟨[.named "Οδυσσεύς"]⟩ : Domain).find? (upper "Οδυσσεύς") = some (.named "Οδυσσεύς") := by
  have reachable : (⟨[.named "Οδυσσεύς"]⟩ : Domain).Reachable :=
    Distinct.reachable (by decide)
  have answers := capitals_lead_back_iff reachable (List.mem_singleton_self _)
  exact ⟨reachable, answers.2.1.mpr (by decide)⟩

/-- The capital of a sharp s is a pair of plain ones. -/
theorem capitals_lose_sharp_s :
    (⟨[.named "Weiß"]⟩ : Domain).Reachable ∧
      (⟨[.named "Weiß"]⟩ : Domain).find? (upper "Weiß") = none ∧
      (⟨[.named "Weiß"]⟩ : Domain).add? (.named (upper "Weiß")) ≠ none ∧
      ((Object.named "x").state "weiß" true).holds (upper "weiß") = false := by
  refine ⟨Distinct.reachable (by decide), ?_, ?_, ?_⟩ <;> decide +kernel

/-- Names in ASCII lead back in any case: a member is found and not added again, and a fact is found
that was stated. -/
theorem ascii_capitals_lead_back (reachable : domain.Reachable) :
    (∀ object ∈ domain.objects, (∀ c ∈ object.name.toList, c.toNat < 0x80) →
      domain.find? (upper object.name) = some object ∧
        ∀ twin : Object, twin.name = upper object.name → domain.add? twin = none) ∧
    ∀ (subject : Object) (predicate : String), (∀ c ∈ predicate.toList, c.toNat < 0x80) →
      ∀ value, (subject.state predicate value).holds (upper predicate) = value := by
  refine ⟨?_, ?_⟩
  · intro object member ascii
    have survives := Text.survivesCapitals_of_ascii ascii
    refine ⟨(reachable.distinct.find?_upper_iff member).mpr survives, ?_⟩
    intro twin named
    exact (add?_upper_iff member named).mpr (.inl survives)
  · intro subject predicate ascii
    exact (subject.holds_state_upper_iff predicate).mpr (Text.survivesCapitals_of_ascii ascii)

end Domain

end Connexive
