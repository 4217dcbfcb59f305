import Connexive.Proofs.Domain.Lookup
import Mathlib.Data.List.Induction
import Mathlib.Data.List.Nodup

namespace Connexive.Domain

/-! No two objects of a domain go by the same name, in letters of any case, so a lookup finds the one
object of its name wherever that stands. This holds of exactly the domains that can come about.
-/

variable {domain next : Domain} {object : Object} {name : String}

def Distinct (domain : Domain) : Prop :=
  (domain.objects.map Object.key).Nodup

instance (domain : Domain) : Decidable domain.Distinct :=
  inferInstanceAs (Decidable (domain.objects.map Object.key).Nodup)

theorem distinct_empty : empty.Distinct := List.nodup_nil

theorem contains_iff_mem_keys :
    domain.contains name = true ↔ Text.lower name ∈ domain.objects.map Object.key := by
  simp only [contains, find?, List.find?_isSome, List.mem_map, beq_iff_eq]

theorem Distinct.add? (distinct : domain.Distinct) (added : domain.add? object = some next) :
    next.Distinct := by
  obtain ⟨absent, rfl⟩ := add?_eq_some_iff.mp added
  have fresh : object.key ∉ domain.objects.map Object.key := by
    intro member
    have known := contains_iff_mem_keys.mpr member
    rw [contains, absent] at known
    contradiction
  rw [Distinct, List.map_append, List.map_singleton, ← List.concat_eq_append]
  exact List.Nodup.concat fresh distinct

theorem keys_state (domain : Domain) (name predicate : String) (value : Bool) :
    (domain.state name predicate value).objects.map Object.key = domain.objects.map Object.key :=
  map_objects_state (fun _ _ _ => rfl) domain name predicate value

theorem Distinct.state (distinct : domain.Distinct) (name predicate : String) (value : Bool) :
    (domain.state name predicate value).Distinct := by
  rw [Distinct, keys_state]
  exact distinct

theorem Distinct.find?_eq_some_iff (distinct : domain.Distinct) :
    domain.find? name = some object ↔
      object ∈ domain.objects ∧ object.key = Text.lower name := by
  constructor
  · intro found
    exact ⟨List.mem_of_find?_eq_some found, find?_key found⟩
  · rintro ⟨member, key⟩
    have known : domain.contains name = true :=
      contains_iff_mem_keys.mpr (key ▸ List.mem_map_of_mem member)
    obtain ⟨other, found⟩ := contains_iff.mp known
    have otherMember := List.mem_of_find?_eq_some found
    have sameKey : other.key = object.key := (find?_key found).trans key.symm
    rw [found, List.inj_on_of_nodup_map distinct otherMember member sameKey]

/-- The domains that can come about: objects join one by one, with whatever is stated about them by
then, and facts are stated about members. -/
inductive Reachable : Domain → Prop
  | empty : Reachable empty
  | add {domain next : Domain} {object : Object} (reachable : Reachable domain)
      (added : domain.add? object = some next) : Reachable next
  | state {domain : Domain} (reachable : Reachable domain) (name predicate : String)
      (value : Bool) : Reachable (domain.state name predicate value)

theorem Reachable.distinct (reachable : domain.Reachable) : domain.Distinct := by
  induction reachable with
  | empty => exact distinct_empty
  | add _ added distinct => exact distinct.add? added
  | state _ name predicate value distinct => exact distinct.state name predicate value

/-- Distinct objects can join in the order in which they are listed. -/
theorem Distinct.reachable (distinct : domain.Distinct) : domain.Reachable := by
  obtain ⟨objects⟩ := domain
  induction objects using List.reverseRecOn with
  | nil => exact .empty
  | append_singleton before object beforeIH =>
      rw [Distinct, List.map_append, List.map_singleton, ← List.concat_eq_append,
        List.nodup_concat] at distinct
      obtain ⟨fresh, earlier⟩ := distinct
      have absent : (⟨before⟩ : Domain).contains object.name = false :=
        Bool.eq_false_iff.mpr fun known => fresh (contains_iff_mem_keys.mp known)
      have added : (⟨before⟩ : Domain).add? object = some ⟨before ++ [object]⟩ := by
        rw [Domain.add?, absent]
        rfl
      exact .add (beforeIH earlier) added

end Connexive.Domain
