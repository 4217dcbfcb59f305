import Connexive.Proofs.Domain.Distinct
import Connexive.Proofs.Domain.Universal

namespace Connexive.Domain

/-! The objects that a formula fails of, connective by connective. A negation fails of the others, a
conjunction of those that either side fails of, a disjunction of those that both sides fail of. An
implication fails as a conjunction does, or of every object if its consequent leaves the topic.
Members are told by their names here, which are distinct in every domain that can come about.
-/

variable {domain : Domain} {object : Object} {formula first second : Formula} {name : String}

theorem Distinct.nodup_names (distinct : domain.Distinct) : domain.names.Nodup := by
  have keys : domain.names.map Text.lower = domain.objects.map Object.key := List.map_map
  apply List.Nodup.of_map Text.lower
  rw [keys]
  exact distinct

theorem failing_sublist (domain : Domain) (formula : Formula) :
    (domain.forAll formula).failing.Sublist domain.names := by
  rw [failing_forAll]
  exact List.filter_sublist.map Object.name

theorem Distinct.name_mem_failing_iff (distinct : domain.Distinct)
    (member : object ∈ domain.objects) :
    object.name ∈ (domain.forAll formula).failing ↔ formula.truth object = false := by
  rw [failing_forAll, List.mem_map]
  simp only [List.mem_filter, Bool.not_eq_true']
  constructor
  · rintro ⟨other, ⟨otherMember, fails⟩, sameName⟩
    rw [← List.inj_on_of_nodup_map distinct.nodup_names otherMember member sameName]
    exact fails
  · intro fails
    exact ⟨object, ⟨member, fails⟩, rfl⟩

/-- What tells by its name whether a formula fails of a member lists the failures. -/
theorem failing_eq_filter_names {fails : String → Prop} [DecidablePred fails]
    (tells : ∀ object ∈ domain.objects, formula.truth object = false ↔ fails object.name) :
    (domain.forAll formula).failing = domain.names.filter fun name => fails name := by
  rw [failing_forAll, names, List.filter_map]
  apply congrArg (List.map Object.name)
  apply List.filter_congr
  intro object member
  rw [Function.comp_apply, Bool.eq_iff_iff, decide_eq_true_iff, Bool.not_eq_true']
  exact tells object member

theorem Distinct.failing_not (distinct : domain.Distinct) (formula : Formula) :
    (domain.forAll (.not formula)).failing =
      domain.names.filter fun name => name ∉ (domain.forAll formula).failing := by
  apply failing_eq_filter_names
  intro object member
  rw [distinct.name_mem_failing_iff member, Formula.truth]
  simp

/-- Where a compound fails if either side does, its failures are those of both sides together. -/
theorem Distinct.failing_of_either (distinct : domain.Distinct)
    (either : ∀ object, formula.truth object = false ↔
      first.truth object = false ∨ second.truth object = false) :
    (domain.forAll formula).failing =
      domain.names.filter fun name =>
        name ∈ (domain.forAll first).failing ∨ name ∈ (domain.forAll second).failing := by
  apply failing_eq_filter_names
  intro object member
  rw [distinct.name_mem_failing_iff member, distinct.name_mem_failing_iff member]
  exact either object

theorem Distinct.failing_and (distinct : domain.Distinct) (first second : Formula) :
    (domain.forAll (.and first second)).failing =
      domain.names.filter fun name =>
        name ∈ (domain.forAll first).failing ∨ name ∈ (domain.forAll second).failing :=
  distinct.failing_of_either fun _ => Bool.and_eq_false_iff

theorem Distinct.failing_or (distinct : domain.Distinct) (first second : Formula) :
    (domain.forAll (.or first second)).failing =
      domain.names.filter fun name =>
        name ∈ (domain.forAll first).failing ∧ name ∈ (domain.forAll second).failing := by
  apply failing_eq_filter_names
  intro object member
  rw [distinct.name_mem_failing_iff member, distinct.name_mem_failing_iff member, Formula.truth]
  exact Bool.or_eq_false_iff

theorem Distinct.failing_implies (distinct : domain.Distinct) (onTopic : first.OnTopic second) :
    (domain.forAll (.implies first second)).failing =
      domain.names.filter fun name =>
        name ∈ (domain.forAll first).failing ∨ name ∈ (domain.forAll second).failing := by
  apply distinct.failing_of_either
  intro object
  rw [Formula.truth, decide_eq_true onTopic, Bool.and_true]
  exact Bool.and_eq_false_iff

theorem failing_implies_off_topic (offTopic : ¬ first.OnTopic second) (domain : Domain) :
    (domain.forAll (.implies first second)).failing = domain.names := by
  have everywhere : domain.objects.filter (fun object => !(Formula.implies first second).truth object) =
      domain.objects := by
    apply List.filter_eq_self.mpr
    intro object _
    rw [Formula.truth, decide_eq_false offTopic, Bool.and_false]
    rfl
  rw [failing_forAll, everywhere]
  rfl

theorem forAll_value_iff_failing (occupied : domain.objects ≠ []) :
    (domain.forAll formula).value = true ↔ (domain.forAll formula).failing = [] := by
  rw [forAll_value_iff, failing_forAll, List.map_eq_nil_iff, List.filter_eq_nil_iff]
  simp [occupied]

theorem forAll_of_empty (vacant : domain.objects = []) (formula : Formula) :
    domain.forAll formula = .vacuous := by
  rw [forAll, vacant]
  rfl

/-- To list the failures is a homomorphism from the formulas to the sublists of the members, in which
negation is the complement. The value follows from the list, save where there is no member. -/
theorem failing_homomorphism (reachable : domain.Reachable) (first second : Formula) :
    let failing (formula : Formula) := (domain.forAll formula).failing
    failing (.not first) = domain.names.filter (fun name => name ∉ failing first) ∧
      failing (.and first second) =
        domain.names.filter (fun name => name ∈ failing first ∨ name ∈ failing second) ∧
      failing (.or first second) =
        domain.names.filter (fun name => name ∈ failing first ∧ name ∈ failing second) ∧
      failing (.implies first second) =
        (if ∀ topic ∈ second.topics, topic ∈ first.topics then
          domain.names.filter (fun name => name ∈ failing first ∨ name ∈ failing second)
        else domain.names) ∧
      ∀ formula, (failing formula).Sublist domain.names ∧ (failing formula).Nodup ∧
        (domain.objects ≠ [] → ((domain.forAll formula).value = true ↔ failing formula = [])) ∧
        (domain.objects = [] → (domain.forAll formula).value = false ∧ failing formula = []) := by
  intro failing
  have distinct := reachable.distinct
  refine ⟨distinct.failing_not first, distinct.failing_and first second,
    distinct.failing_or first second, ?_, fun formula => ⟨?_, ?_, ?_, ?_⟩⟩
  · split
    · next onTopic => exact distinct.failing_implies onTopic
    · next offTopic => exact failing_implies_off_topic offTopic domain
  · exact failing_sublist domain formula
  · exact (failing_sublist domain formula).nodup distinct.nodup_names
  · exact forAll_value_iff_failing
  · intro vacant
    have vacuous := forAll_of_empty vacant formula
    exact ⟨congrArg UniversalVerdict.value vacuous, congrArg UniversalVerdict.failing vacuous⟩

/-- Three objects, of which one has both facts and one has neither: each side fails of one of them,
and no object fails the disjunction. -/
theorem failing_homomorphism_of_three :
    let domain : Domain := ⟨[⟨"x", [("a", true), ("b", true)]⟩, ⟨"y z", [("a", true)]⟩, ⟨"W", []⟩]⟩
    let first : Formula := .or (.atom "a") (.atom "b")
    let second : Formula := .not (.atom "B")
    domain.Reachable ∧
      (domain.forAll (.not first)).failing = ["x", "y z"] ∧
      (domain.forAll (.and first second)).failing = ["x", "W"] ∧
      (domain.forAll (.or first second)).failing = [] ∧
      (domain.forAll (.or first second)).value = true ∧
      (domain.forAll (.implies first second)).failing = ["x", "W"] ∧
      (domain.forAll (.implies second first)).failing = ["x", "y z", "W"] := by
  intro domain first second
  have distinct : domain.Distinct := by decide
  have reachable : domain.Reachable := distinct.reachable
  obtain ⟨negation, conjunction, disjunction, implication, lists⟩ :=
    failing_homomorphism reachable first second
  obtain ⟨_, _, _, offTopic, _⟩ := failing_homomorphism reachable second first
  obtain ⟨_, _, decided, _⟩ := lists (.or first second)
  have nowhere : (domain.forAll (.or first second)).failing = [] := disjunction.trans (by decide)
  exact ⟨reachable, negation.trans (by decide), conjunction.trans (by decide), nowhere,
    (decided (List.cons_ne_nil _ _)).mpr nowhere, implication.trans (by decide),
    offTopic.trans (by decide)⟩

end Connexive.Domain
