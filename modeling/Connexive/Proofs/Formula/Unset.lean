import Connexive.Proofs.Evaluation.Blocks
import Connexive.Proofs.Formula.Notes

namespace Connexive

/-! A predicate of which nothing is stated, and the same predicate stated to be false. No verdict
tells them apart. The derivations differ in the notes on the closed world that stand behind the
facts about this predicate, and in nothing else.
-/

open Evaluation

variable {object : Object} {predicate name line : String}
  {lines rest others otherRest : List String}

/-- A line that tells whether the object has the predicate, in letters of any case and at any
indentation. -/
def TellsOf (object : Object) (predicate line : String) : Prop :=
  ∃ name, Text.lower name = Text.lower predicate ∧ unindented line = factLine object name

/-- What is left of the lines when the note on the closed world is taken away behind each fact about
the predicate. -/
inductive WithoutNotes (object : Object) (predicate : String) : List String → List String → Prop
  | nil : WithoutNotes object predicate [] []
  | fact {line tag rationale : String} {lines rest : List String}
      (tells : TellsOf object predicate line)
      (tagged : unindented tag = Heuristic.closedWorld.tag)
      (explained : unindented rationale = Heuristic.closedWorld.rationale)
      (further : WithoutNotes object predicate lines rest) :
      WithoutNotes object predicate (line :: tag :: rationale :: lines) (line :: rest)
  | other {line : String} {lines rest : List String} (apart : ¬ TellsOf object predicate line)
      (further : WithoutNotes object predicate lines rest) :
      WithoutNotes object predicate (line :: lines) (line :: rest)

theorem TellsOf.capital (tells : TellsOf object predicate line) :
    firstCapital? line = some 'F' := by
  obtain ⟨name, _, same⟩ := tells
  rw [← firstCapital?_unindented, same, firstCapital?_factLine]

theorem not_tellsOf_of_capital {capital : Char} (opens : firstCapital? line = some capital)
    (other : capital ≠ 'F') : ¬ TellsOf object predicate line := by
  intro tells
  rw [tells.capital] at opens
  exact other (Option.some.inj opens).symm

theorem not_tellsOf_of_plain (plain : Plain line) : ¬ TellsOf object predicate line := by
  obtain ⟨capital, opens, _, other⟩ := plain
  exact not_tellsOf_of_capital opens other

@[simp] theorem tellsOf_indent :
    TellsOf object predicate (indent line) ↔ TellsOf object predicate line := by
  simp only [TellsOf, unindented_indent]

theorem tellsOf_factLine :
    TellsOf object predicate (factLine object name) ↔ Text.lower name = Text.lower predicate := by
  constructor
  · rintro ⟨other, same, line⟩
    rw [unindented_factLine] at line
    rw [(factLine_inj rfl line).1, same]
  · intro same
    exact ⟨name, same, unindented_factLine object name⟩

namespace WithoutNotes

theorem append (first : WithoutNotes object predicate lines rest)
    (second : WithoutNotes object predicate others otherRest) :
    WithoutNotes object predicate (lines ++ others) (rest ++ otherRest) := by
  induction first with
  | nil => exact second
  | fact tells tagged explained _ furtherIH => exact .fact tells tagged explained furtherIH
  | other apart _ furtherIH => exact .other apart furtherIH

theorem indented (without : WithoutNotes object predicate lines rest) :
    WithoutNotes object predicate (lines.map indent) (rest.map indent) := by
  induction without with
  | nil => exact .nil
  | fact tells tagged explained _ furtherIH =>
      exact .fact (tellsOf_indent.mpr tells) ((unindented_indent _).trans tagged)
        ((unindented_indent _).trans explained) furtherIH
  | other apart _ furtherIH => exact .other (mt tellsOf_indent.mp apart) furtherIH

/-- The lines tell what is taken away. -/
theorem unique (without : WithoutNotes object predicate lines rest)
    (other : WithoutNotes object predicate lines otherRest) : rest = otherRest := by
  induction without generalizing otherRest with
  | nil =>
      cases other
      rfl
  | fact tells _ _ _ furtherIH =>
      cases other with
      | fact _ _ _ further => rw [furtherIH further]
      | other apart _ => exact absurd tells apart
  | other apart _ furtherIH =>
      cases other with
      | fact tells _ _ _ => exact absurd tells apart
      | other _ further => rw [furtherIH further]

theorem cons_of_plain (plain : Plain line) (without : WithoutNotes object predicate lines rest) :
    WithoutNotes object predicate (line :: lines) (line :: rest) :=
  .other (not_tellsOf_of_plain plain) without

theorem annotationLines (applies : Bool) (heuristic : Heuristic) :
    WithoutNotes object predicate (annotationLines applies heuristic)
      (annotationLines applies heuristic) := by
  cases applies with
  | false => exact .nil
  | true =>
      exact .other (not_tellsOf_of_capital (firstCapital?_tag heuristic) (by decide))
        (cons_of_plain (plain_rationale heuristic) .nil)

theorem blockwise : Blockwise (WithoutNotes object predicate) where
  plain := cons_of_plain
  append := append
  indented := indented
  annotation := annotationLines

/-- What is taken away are tags of the closed world, with lines that tag nothing. -/
theorem tagsOf_filter (without : WithoutNotes object predicate lines rest) :
    (tagsOf rest).filter (· ≠ .closedWorld) = (tagsOf lines).filter (· ≠ .closedWorld) := by
  induction without with
  | nil => rfl
  | @fact line tag rationale lines rest tells tagged explained _ furtherIH =>
      have noted : tagOf? tag = some .closedWorld := tagOf?_eq_some_iff.mpr tagged
      have plain : Plain rationale := by
        rw [← plain_unindented, explained]
        exact plain_rationale _
      have note : tagsOf (tag :: rationale :: lines) = .closedWorld :: tagsOf lines := by
        rw [← plain.tagsOf_cons lines]
        exact List.filterMap_cons_some noted
      rw [tagsOf_cons_of_capital tells.capital (by decide),
        tagsOf_cons_of_capital tells.capital (by decide), note, furtherIH]
      rfl
  | @other line lines rest _ _ furtherIH =>
      have both (more : List String) : tagsOf (line :: more) = tagsOf [line] ++ tagsOf more :=
        tagsOf_append [line] more
      rw [both rest, both lines, List.filter_append, List.filter_append, furtherIH]

end WithoutNotes

/-- Stating false what was unstated leaves every predicate as true as it was. -/
theorem Object.holds_state_false (unset : object.stated? predicate = none) (name : String) :
    (object.state predicate false).holds name = object.holds name := by
  rw [holds_state]
  by_cases same : Text.lower name = Text.lower predicate
  · have unstated : object.stated? name = none := (object.stated?_of_lower_eq same).trans unset
    simp [same, holds, unstated]
  · rw [if_neg same]

namespace Formula

theorem withoutNotes_ofFact (unset : object.stated? predicate = none) (name : String) :
    WithoutNotes object predicate (ofFact object name).derivation
      (ofFact (object.state predicate false) name).derivation := by
  have sameLine : factLine (object.state predicate false) name = factLine object name := by
    rw [factLine, factLine, Object.holds_state_false unset]
    rfl
  rw [ofFact_derivation, ofFact_derivation, sameLine, Object.stated?_state]
  by_cases same : Text.lower name = Text.lower predicate
  · have unstated : object.stated? name = none := (object.stated?_of_lower_eq same).trans unset
    rw [if_pos same, unstated]
    exact .fact (tellsOf_factLine.mpr same) (unindented_tag _) (unindented_rationale _) .nil
  · rw [if_neg same]
    exact .other (mt tellsOf_factLine.mp same) (.annotationLines _ _)

theorem beside_state_false (unset : object.stated? predicate = none) (formula : Formula) :
    Beside (WithoutNotes object predicate) (formula.evaluate object)
      (formula.evaluate (object.state predicate false)) := by
  induction formula with
  | atom name =>
      refine ⟨?_, withoutNotes_ofFact unset name⟩
      rw [evaluate_value, evaluate_value]
      exact (Object.holds_state_false unset name).symm
  | not inner innerIH => exact WithoutNotes.blockwise.negation innerIH
  | and left right leftIH rightIH => exact WithoutNotes.blockwise.conjunction leftIH rightIH
  | or left right leftIH rightIH => exact WithoutNotes.blockwise.disjunction leftIH rightIH
  | implies antecedent consequent antecedentIH consequentIH =>
      exact WithoutNotes.blockwise.implication _ antecedentIH consequentIH

/-- Stating false what was unstated takes away the notes on the closed world behind the facts about
the predicate. It changes nothing else in an evaluation, save that the heuristic of the closed world
goes too where no other atom is unstated. -/
theorem unset_beside_false (unset : object.stated? predicate = none) (formula : Formula) :
    let told := object.state predicate false
    (formula.evaluate told).value = (formula.evaluate object).value ∧
      (formula.evaluate told).classicalValue = (formula.evaluate object).classicalValue ∧
      (formula.evaluate told).isNonClassical = (formula.evaluate object).isNonClassical ∧
      (∀ lines, WithoutNotes object predicate (formula.evaluate object).derivation lines ↔
        lines = (formula.evaluate told).derivation) ∧
      (formula.evaluate told).heuristics.filter (· ≠ .closedWorld) =
        (formula.evaluate object).heuristics.filter (· ≠ .closedWorld) ∧
      (.closedWorld ∈ (formula.evaluate told).heuristics ↔
        ∃ name ∈ formula.names, Text.lower name ≠ Text.lower predicate ∧
          object.stated? name = none) := by
  intro told
  have verdict : (formula.evaluate told).verdict = (formula.evaluate object).verdict :=
    verdict_congr fun name _ => Object.holds_state_false unset name
  have without : WithoutNotes object predicate (formula.evaluate object).derivation
      (formula.evaluate told).derivation := (beside_state_false unset formula).derivation
  refine ⟨congrArg Verdict.value verdict, congrArg Verdict.classicalValue verdict,
    congrArg Verdict.isNonClassical verdict, fun lines => ?_, ?_, ?_⟩
  · constructor
    · exact fun given => given.unique without
    · rintro rfl
      exact without
  · have noting := evaluate_notes object formula
    have toldNoting := evaluate_notes told formula
    rw [noting.heuristics, toldNoting.heuristics, ← noting.tags, ← toldNoting.tags,
      filter_eraseDups, filter_eraseDups, without.tagsOf_filter]
  · rw [closedWorld_mem_heuristics_iff]
    refine exists_congr fun name => and_congr_right fun _ => ?_
    rw [Object.stated?_state]
    by_cases same : Text.lower name = Text.lower predicate
    · simp [same]
    · simp [same]

/-- The predicate stands twice below an implication, in different letters, beside another one of
which nothing is stated. -/
theorem unset_beside_false_twice :
    let object : Object := ⟨"x", [("q", true)]⟩
    let formula : Formula :=
      .implies (.and (.atom "P") (.or (.atom "r") (.atom "q"))) (.not (.atom "p"))
    object.stated? "p" = none ∧
      (formula.evaluate (object.state "p" false)).value = (formula.evaluate object).value ∧
      (formula.evaluate object).derivation.length =
        (formula.evaluate (object.state "p" false)).derivation.length + 4 ∧
      WithoutNotes object "p" (formula.evaluate object).derivation
        (formula.evaluate (object.state "p" false)).derivation ∧
      .closedWorld ∈ (formula.evaluate (object.state "p" false)).heuristics := by
  intro object formula
  have unset : object.stated? "p" = none := by decide
  obtain ⟨value, _, _, derivation, _, closedWorld⟩ := unset_beside_false unset formula
  refine ⟨unset, value, by decide +kernel, (derivation _).mpr rfl, closedWorld.mpr ?_⟩
  exact ⟨"r", by decide, by decide, by decide⟩

end Formula

end Connexive
