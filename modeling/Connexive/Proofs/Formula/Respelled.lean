import Connexive.Proofs.Draft.Alike
import Connexive.Proofs.Evaluation.Blocks
import Connexive.Proofs.Formula.Notes
import Mathlib.Data.List.Forall2

namespace Connexive

/-! Formulas that are equal in structure, one beside the other. The case of a name is seen in the
line of its fact and nowhere else: values, heuristics and the shapes of implications depend on the
topics alone.
-/

open Evaluation

/-- A line of a derivation beside the same line, in which only the predicate of a fact may stand in
letters of another case. -/
inductive Respelled (object : Object) : String → String → Prop
  | same (line : String) : Respelled object line line
  | fact {name other : String} (topic : Text.lower name = Text.lower other)
      (truth : object.holds name = object.holds other) :
      Respelled object (factLine object name) (factLine object other)
  | indented {line other : String} (respelled : Respelled object line other) :
      Respelled object (indent line) (indent other)

variable {object : Object} {name other : String}

theorem respelled_refl (lines : List String) : List.Forall₂ (Respelled object) lines lines :=
  List.forall₂_same.mpr fun line _ => .same line

theorem respelled_blockwise : Blockwise (List.Forall₂ (Respelled object)) where
  plain _ further := .cons (.same _) further
  append first second := List.rel_append first second
  indented within := List.rel_map (fun _ _ line => .indented line) within
  annotation _ _ := respelled_refl _

theorem respelled_ofFact (topic : Text.lower name = Text.lower other) :
    List.Forall₂ (Respelled object) (ofFact object name).derivation
      (ofFact object other).derivation := by
  rw [ofFact_derivation, ofFact_derivation, object.stated?_of_lower_eq topic]
  exact .cons (.fact topic (object.holds_of_lower_eq topic)) (respelled_refl _)

namespace Formula.Alike

variable {first second left right otherLeft otherRight : Formula}

theorem implication_eq (leftAlike : Alike left otherLeft) (rightAlike : Alike right otherRight) :
    left.implication right = otherLeft.implication otherRight := by
  have sameLeft : (Draft.ofFormula left).structurallyEqual (.ofFormula otherLeft) = true := by
    rw [Draft.structurallyEqual_ofFormula, leftAlike.structurallyEqual]
  have sameRight : (Draft.ofFormula right).structurallyEqual (.ofFormula otherRight) = true := by
    rw [Draft.structurallyEqual_ofFormula, rightAlike.structurallyEqual]
  have shapes := (Draft.implication_congr_left sameLeft (.ofFormula right)).trans
    (Draft.implication_congr_right sameRight (.ofFormula otherLeft))
  rw [Draft.implication_ofFormula, Draft.implication_ofFormula] at shapes
  exact Except.ok.inj shapes

theorem value_eq (alike : Alike first second) :
    (first.evaluate object).value = (second.evaluate object).value := by
  rw [evaluate_value, evaluate_value, alike.truth_eq]

theorem verdict_eq (alike : Alike first second) :
    (first.evaluate object).verdict = (second.evaluate object).verdict := by
  have same : first.truth object = second.truth object := alike.truth_eq
  cases alike with
  | atom topic => simp only [evaluate, ofFact_verdict, object.holds_of_lower_eq topic]
  | not inner => simp only [evaluate, negation_verdict, inner.value_eq]
  | and left right => simp only [evaluate, conjunction_verdict, left.value_eq, right.value_eq]
  | or left right => simp only [evaluate, disjunction_verdict, left.value_eq, right.value_eq]
  | implies left right => simp only [verdict_implies, same, left.truth_eq, right.truth_eq]

theorem notes_eq (alike : Alike first second) : first.notes object = second.notes object := by
  induction alike with
  | atom topic => simp only [notes, ownNotes, object.stated?_of_lower_eq topic]
  | not _ innerIH => exact innerIH
  | and _ _ leftIH rightIH | or _ _ leftIH rightIH => simp only [notes, leftIH, rightIH]
  | @implies left right otherLeft otherRight leftAlike rightAlike leftIH rightIH =>
      have shape := leftAlike.implication_eq rightAlike
      have onTopic : decide (left.OnTopic right) = decide (otherLeft.OnTopic otherRight) := by
        rw [← implication_isRelevant, ← implication_isRelevant, shape]
      have coherent :
          left.aristotleCoherent right = otherLeft.aristotleCoherent otherRight :=
        congrArg Implication.isAristotleCoherent shape
      simp only [notes, ownNotes, leftIH, rightIH, onTopic, coherent, leftAlike.truth_eq]

theorem beside (alike : Alike first second) :
    Beside (List.Forall₂ (Respelled object)) (first.evaluate object) (second.evaluate object) := by
  induction alike with
  | atom topic => exact ⟨(Alike.atom topic).value_eq, respelled_ofFact topic⟩
  | not _ innerIH => exact respelled_blockwise.negation innerIH
  | and _ _ leftIH rightIH => exact respelled_blockwise.conjunction leftIH rightIH
  | or _ _ leftIH rightIH => exact respelled_blockwise.disjunction leftIH rightIH
  | implies leftAlike rightAlike leftIH rightIH =>
      rw [evaluate, evaluate, leftAlike.implication_eq rightAlike]
      exact respelled_blockwise.implication _ leftIH rightIH

theorem heuristics_eq (alike : Alike first second) :
    (first.evaluate object).heuristics = (second.evaluate object).heuristics := by
  rw [(evaluate_notes object first).heuristics, (evaluate_notes object second).heuristics,
    alike.notes_eq]

end Formula.Alike

namespace Draft

theorem evaluate_respelled {first second : Draft} (same : first.structurallyEqual second = true)
    (object : Object) :
    ∃ evaluation other,
      first.evaluate object = .ok evaluation ∧ second.evaluate object = .ok other ∧
      evaluation.verdict = other.verdict ∧ evaluation.heuristics = other.heuristics ∧
      List.Forall₂ (Respelled object) evaluation.derivation other.derivation := by
  obtain ⟨formula, other, rfl, rfl, alike⟩ := exists_alike same
  exact ⟨_, _, evaluate_ofFormula object formula, evaluate_ofFormula object other,
    alike.verdict_eq, alike.heuristics_eq, alike.beside.derivation⟩

/-- Two drafts are equal in structure exactly if no data stands in them and lower-case names make
them the same. Equal drafts have the same topics, they are evaluated alike on every object, save
that each spells its facts in its own way, and no implication changes its shape when one of them
takes the place of the other. -/
theorem structurallyEqual_congruence :
    (∀ first second : Draft, first.structurallyEqual second = true ↔
      first.data = [] ∧ second.data = [] ∧ first.lowered = second.lowered) ∧
    (Equivalence fun first second : Formula =>
      (ofFormula first).structurallyEqual (ofFormula second) = true) ∧
    ∀ first second : Draft, first.structurallyEqual second = true →
      (∃ topics, first.topics = .ok topics ∧ second.topics = .ok topics) ∧
      (∀ object, ∃ evaluation other,
        first.evaluate object = .ok evaluation ∧ second.evaluate object = .ok other ∧
        evaluation.value = other.value ∧
        evaluation.classicalValue = other.classicalValue ∧
        evaluation.isNonClassical = other.isNonClassical ∧
        evaluation.heuristics = other.heuristics ∧
        List.Forall₂ (Respelled object) evaluation.derivation other.derivation) ∧
      ∀ side : Draft, first.implication side = second.implication side ∧
        side.implication first = side.implication second := by
  refine ⟨fun _ _ => structurallyEqual_iff, structurallyEqual_equivalence,
    fun first second same => ⟨?_, fun object => ?_, fun side => ?_⟩⟩
  · obtain ⟨formula, rfl⟩ := exists_formula (structurallyEqual_iff.mp same).1
    exact ⟨formula.topics, topics_ofFormula formula,
      (topics_congr same).symm.trans (topics_ofFormula formula)⟩
  · obtain ⟨evaluation, other, evaluated, otherEvaluated, verdict, heuristics, derivation⟩ :=
      evaluate_respelled same object
    exact ⟨evaluation, other, evaluated, otherEvaluated, congrArg Verdict.value verdict,
      congrArg Verdict.classicalValue verdict, congrArg Verdict.isNonClassical verdict, heuristics,
      derivation⟩
  · exact ⟨implication_congr_left same side, implication_congr_right same side⟩

/-- Names of which no two are written alike, and an implication in which data stands beside them. -/
theorem structurallyEqual_congruence_recased :
    let object : Object := ⟨"x", [("ab", true)]⟩
    let first : Draft := .implies (.and (.atom "Ab") (.atom "c")) (.not (.not (.atom "aB")))
    let second : Draft := .implies (.and (.atom "aB") (.atom "C")) (.not (.not (.atom "AB")))
    let side : Draft := .not (.foreign .null)
    first.structurallyEqual second = true ∧
      (∃ evaluation other, first.evaluate object = .ok evaluation ∧
        second.evaluate object = .ok other ∧ evaluation.heuristics = other.heuristics ∧
        List.Forall₂ (Respelled object) evaluation.derivation other.derivation) ∧
      side.implication first = side.implication second := by
  intro object first second side
  have same : first.structurallyEqual second = true := by decide
  obtain ⟨_, _, congruence⟩ := structurallyEqual_congruence
  obtain ⟨_, evaluated, shapes⟩ := congruence first second same
  obtain ⟨evaluation, other, first, second, _, _, _, heuristics, derivation⟩ := evaluated object
  exact ⟨same, ⟨evaluation, other, first, second, heuristics, derivation⟩, (shapes side).2⟩

end Draft

end Connexive
