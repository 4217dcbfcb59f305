import Connexive.Proofs.Domain.Lookup
import Connexive.Proofs.Evaluation.Heuristics
import Connexive.Proofs.Formula.Truth

namespace Connexive.Formula

/-! Which heuristics the evaluation of a formula carries. Every part of the formula makes its own
notes, after those of its own parts. All of them come up to the root: one by one as the tags of the
derivation, and without repetition as the heuristics. So a heuristic is there exactly if some part
of the formula makes it, and what a part notes depends on that part and the object alone.
-/

open Evaluation

/-- The formula and all its parts, however deep they stand. -/
def parts : Formula → List Formula
  | atom name => [atom name]
  | not inner => not inner :: inner.parts
  | and left right => and left right :: (left.parts ++ right.parts)
  | or left right => or left right :: (left.parts ++ right.parts)
  | implies antecedent consequent =>
    implies antecedent consequent :: (antecedent.parts ++ consequent.parts)

/-- What a formula notes by itself, its parts left out of account. -/
def ownNotes (object : Object) : Formula → List Heuristic
  | atom name => noted (object.stated? name).isNone .closedWorld
  | implies antecedent consequent =>
    noted (!decide (antecedent.OnTopic consequent)) .relevance ++
      noted (!antecedent.aristotleCoherent consequent) .aristotleThesis ++
      noted (!antecedent.truth object) .boethiusThesis
  | _ => []

/-- What the whole of a formula notes, in the order of evaluation and with repetition. -/
def notes (object : Object) : Formula → List Heuristic
  | atom name => (atom name).ownNotes object
  | not inner => inner.notes object
  | and left right | or left right => left.notes object ++ right.notes object
  | implies antecedent consequent =>
    antecedent.notes object ++ consequent.notes object ++
      (implies antecedent consequent).ownNotes object

variable {object : Object} {formula part antecedent consequent : Formula} {name : String}
  {heuristic : Heuristic}

theorem evaluate_notes (object : Object) (formula : Formula) :
    Notes (formula.evaluate object) (formula.notes object) := by
  induction formula with
  | atom name => exact notes_ofFact object name
  | not inner innerIH => exact innerIH.negation
  | and left right leftIH rightIH | or left right leftIH rightIH => exact leftIH.binary _ _ rightIH
  | implies antecedent consequent antecedentIH consequentIH =>
      have noting := antecedentIH.implication (antecedent.implication consequent) consequentIH
      rw [implication_isRelevant, evaluate_value] at noting
      simp only [notes, ownNotes, ← List.append_assoc]
      exact noting

theorem mem_notes_iff :
    heuristic ∈ formula.notes object ↔
      ∃ part ∈ formula.parts, heuristic ∈ part.ownNotes object := by
  induction formula with
  | atom name => simp [notes, parts]
  | not inner innerIH => simp [notes, parts, ownNotes, innerIH]
  | and left right leftIH rightIH | or left right leftIH rightIH =>
      simp [notes, parts, ownNotes, leftIH, rightIH, or_and_right, exists_or]
  | implies antecedent consequent antecedentIH consequentIH =>
      simp only [notes, parts, List.mem_append, antecedentIH, consequentIH, List.exists_mem_cons_iff,
        or_and_right, exists_or]
      exact Or.comm

theorem mem_heuristics_iff_ownNotes :
    heuristic ∈ (formula.evaluate object).heuristics ↔
      ∃ part ∈ formula.parts, heuristic ∈ part.ownNotes object := by
  rw [(evaluate_notes object formula).heuristics, List.mem_eraseDups, mem_notes_iff]

theorem atom_mem_parts_iff : atom name ∈ formula.parts ↔ name ∈ formula.names := by
  induction formula with
  | atom other => simp [parts, names]
  | not inner innerIH => simp [parts, names, innerIH]
  | and left right leftIH rightIH | or left right leftIH rightIH
  | implies left right leftIH rightIH => simp [parts, names, leftIH, rightIH]

theorem closedWorld_mem_ownNotes_iff :
    .closedWorld ∈ part.ownNotes object ↔
      ∃ name, part = atom name ∧ object.stated? name = none := by
  cases part <;> simp [ownNotes]

theorem aristotleCoherent_eq_false_iff :
    antecedent.aristotleCoherent consequent = false ↔
      ∃ inner, antecedent = not inner ∧ inner.structurallyEqual consequent = true := by
  cases antecedent <;> simp [aristotleCoherent]

/-- Some implication within the formula is of the kind in question. -/
def SomeImplication (formula : Formula) (ofKind : Formula → Formula → Prop) : Prop :=
  ∃ antecedent consequent, implies antecedent consequent ∈ formula.parts ∧
    ofKind antecedent consequent

/-- Only an atom notes the closed world, and an implication is all that notes anything else. -/
theorem mem_heuristics_iff_someImplication (other : heuristic ≠ .closedWorld) :
    heuristic ∈ (formula.evaluate object).heuristics ↔
      formula.SomeImplication fun antecedent consequent =>
        heuristic ∈ (implies antecedent consequent).ownNotes object := by
  rw [mem_heuristics_iff_ownNotes]
  constructor
  · rintro ⟨part, member, noted⟩
    cases part with
    | implies antecedent consequent => exact ⟨antecedent, consequent, member, noted⟩
    | atom name => exact absurd (mem_noted_iff.mp noted).2 other
    | not _ | and _ _ | or _ _ => cases noted
  · rintro ⟨antecedent, consequent, member, noted⟩
    exact ⟨_, member, noted⟩

theorem closedWorld_mem_heuristics_iff :
    .closedWorld ∈ (formula.evaluate object).heuristics ↔
      ∃ name ∈ formula.names, object.stated? name = none := by
  simp only [mem_heuristics_iff_ownNotes, closedWorld_mem_ownNotes_iff, ← atom_mem_parts_iff]
  constructor
  · rintro ⟨_, member, name, rfl, unstated⟩
    exact ⟨name, member, unstated⟩
  · rintro ⟨name, member, unstated⟩
    exact ⟨_, member, name, rfl, unstated⟩

theorem relevance_mem_heuristics_iff :
    .relevance ∈ (formula.evaluate object).heuristics ↔
      formula.SomeImplication fun antecedent consequent => ¬ antecedent.OnTopic consequent := by
  rw [mem_heuristics_iff_someImplication (by decide)]
  simp [ownNotes]

theorem aristotleThesis_mem_heuristics_iff :
    .aristotleThesis ∈ (formula.evaluate object).heuristics ↔
      formula.SomeImplication fun antecedent consequent =>
        antecedent.aristotleCoherent consequent = false := by
  rw [mem_heuristics_iff_someImplication (by decide)]
  simp [ownNotes]

theorem boethiusThesis_mem_heuristics_iff :
    .boethiusThesis ∈ (formula.evaluate object).heuristics ↔
      formula.SomeImplication fun antecedent _ => (antecedent.evaluate object).value = false := by
  rw [mem_heuristics_iff_someImplication (by decide)]
  simp [ownNotes, evaluate_value]

theorem vacuousTruthRejection_not_mem_heuristics :
    .vacuousTruthRejection ∉ (formula.evaluate object).heuristics := by
  rw [mem_heuristics_iff_someImplication (by decide)]
  simp [ownNotes, SomeImplication]

/-- The heuristics of an evaluation are those that its derivation tags, each once and in the order in
which the tags come first. The line of a fact is never taken for a tag, however the predicate and the
object are named and however far the line is indented. -/
theorem heuristics_tagged (object : Object) (formula : Formula) :
    (formula.evaluate object).heuristics =
        (tagsOf (formula.evaluate object).derivation).eraseDups ∧
      (formula.evaluate object).heuristics.Nodup ∧
      (∀ heuristic, heuristic ∈ (formula.evaluate object).heuristics ↔
        ∃ line ∈ (formula.evaluate object).derivation, unindented line = heuristic.tag) ∧
      ∀ (subject : Object) (predicate : String) (spaces : Nat),
        tagOf? (String.ofList (List.replicate spaces ' ') ++ factLine subject predicate) = none := by
  have noting := evaluate_notes object formula
  have tagged : (formula.evaluate object).heuristics =
      (tagsOf (formula.evaluate object).derivation).eraseDups := by
    rw [noting.heuristics, noting.tags]
  refine ⟨tagged, ?_, fun heuristic => ?_, tagOf?_indented_factLine⟩
  · rw [tagged]
    exact nodup_eraseDups _
  · rw [tagged, List.mem_eraseDups, mem_tagsOf_iff]

/-- An implication that leads from a negation to what it negates, and that is classically true, is so
by its antecedent being false. -/
theorem antecedent_false_of_incoherent
    (incoherent : antecedent.aristotleCoherent consequent = false)
    (classical : ((implies antecedent consequent).evaluate object).classicalValue = some true) :
    (antecedent.evaluate object).value = false := by
  have verdict := congrArg Verdict.classicalValue (verdict_implies object antecedent consequent)
  have holds := Option.some.inj (verdict.symm.trans classical)
  rw [evaluate_value]
  apply Bool.eq_false_iff.mpr
  intro antecedentTrue
  rw [antecedentTrue, Bool.not_true, Bool.false_or] at holds
  rw [aristotleCoherent_of_truth antecedentTrue holds] at incoherent
  contradiction

/-- Why a heuristic is among those of an evaluation: some part of the formula, at any depth, departs
from classical rules in this way. -/
theorem mem_heuristics_iff (object : Object) (formula : Formula) :
    (.closedWorld ∈ (formula.evaluate object).heuristics ↔
      ∃ topic ∈ formula.topics, topic ∉ object.facts.map Prod.fst) ∧
    (.relevance ∈ (formula.evaluate object).heuristics ↔
      formula.SomeImplication fun antecedent consequent =>
        ∃ topic ∈ consequent.topics, topic ∉ antecedent.topics) ∧
    (.aristotleThesis ∈ (formula.evaluate object).heuristics ↔
      formula.SomeImplication fun antecedent consequent =>
        ∃ inner, antecedent = not inner ∧ inner.structurallyEqual consequent = true) ∧
    (.boethiusThesis ∈ (formula.evaluate object).heuristics ↔
      formula.SomeImplication fun antecedent _ => (antecedent.evaluate object).value = false) ∧
    .vacuousTruthRejection ∉ (formula.evaluate object).heuristics ∧
    ∀ inner consequent, implies (not inner) consequent ∈ formula.parts →
      inner.structurallyEqual consequent = true →
      ((implies (not inner) consequent).evaluate object).classicalValue = some true →
        ((not inner).evaluate object).value = false ∧
          .boethiusThesis ∈ (formula.evaluate object).heuristics := by
  refine ⟨?_, ?_, ?_, boethiusThesis_mem_heuristics_iff, vacuousTruthRejection_not_mem_heuristics,
    fun inner consequent member equal classical => ?_⟩
  · rw [closedWorld_mem_heuristics_iff]
    simp only [Object.stated?_eq_none_iff, topics, List.mem_map, exists_exists_and_eq_and]
  · rw [relevance_mem_heuristics_iff]
    simp only [OnTopic, not_forall, exists_prop]
  · simp only [aristotleThesis_mem_heuristics_iff, aristotleCoherent_eq_false_iff]
  · have incoherent : (not inner).aristotleCoherent consequent = false :=
      aristotleCoherent_eq_false_iff.mpr ⟨inner, rfl, equal⟩
    have fails := antecedent_false_of_incoherent incoherent classical
    exact ⟨fails, boethiusThesis_mem_heuristics_iff.mpr ⟨not inner, consequent, member, fails⟩⟩

/-- An implication below a negation and a disjunction, its antecedent false and the negation of its
consequent. -/
theorem mem_heuristics_iff_below_negation :
    let object : Object := ⟨"x", [("a", true)]⟩
    let incoherent : Formula := .implies (.not (.atom "A")) (.atom "a")
    let formula : Formula := .not (.or incoherent (.atom "b"))
    incoherent ∈ formula.parts ∧ (atom "A").structurallyEqual (atom "a") = true ∧
      (incoherent.evaluate object).classicalValue = some true ∧
      ((not (atom "A")).evaluate object).value = false ∧
      .boethiusThesis ∈ (formula.evaluate object).heuristics ∧
      .aristotleThesis ∈ (formula.evaluate object).heuristics ∧
      .closedWorld ∈ (formula.evaluate object).heuristics ∧
      .relevance ∉ (formula.evaluate object).heuristics := by
  intro object incoherent formula
  have member : incoherent ∈ formula.parts := by decide
  have equal : (atom "A").structurallyEqual (atom "a") = true := by decide
  have classical : (incoherent.evaluate object).classicalValue = some true := by decide
  obtain ⟨closedWorld, relevance, aristotle, _, _, boethius⟩ := mem_heuristics_iff object formula
  obtain ⟨fails, violated⟩ := boethius (atom "A") (atom "a") member equal classical
  refine ⟨member, equal, classical, fails, violated, aristotle.mpr ?_, closedWorld.mpr ?_, ?_⟩
  · exact ⟨_, _, member, atom "A", rfl, equal⟩
  · exact ⟨"b", by decide, by decide⟩
  · intro noted
    obtain ⟨antecedent, consequent, within, topic, sought, missing⟩ := relevance.mp noted
    have only : antecedent = not (atom "A") ∧ consequent = atom "a" := by
      simpa [formula, incoherent, parts] using within
    obtain ⟨rfl, rfl⟩ := only
    exact missing sought

end Connexive.Formula
