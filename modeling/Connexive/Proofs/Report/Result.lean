import Connexive.Formula.Evaluate
import Connexive.Proofs.Evaluation.Layout
import Connexive.Report

namespace Connexive.Report

/-! What can be read off the report on a query. The first two letters of a line tell the result and
a tag from every other line, so the result stands in the report exactly if it is the value, and the
tag of the closed world exactly if the derivation has it.
-/

open Evaluation

variable {letters others : List Char} {line opening : String} {evaluation : Evaluation}

def OpensWith (letters : List Char) (line : String) : Prop :=
  letters <+: line.toList

instance (letters : List Char) (line : String) : Decidable (OpensWith letters line) :=
  inferInstanceAs (Decidable (letters <+: line.toList))

theorem opensWith_ofList (letters rest : List Char) :
    OpensWith letters (String.ofList (letters ++ rest)) :=
  ⟨rest, String.toList_ofList.symm⟩

theorem OpensWith.append (opens : OpensWith letters opening) (rest : String) :
    OpensWith letters (opening ++ rest) := by
  rw [OpensWith, String.toList_append]
  exact opens.trans (List.prefix_append _ _)

theorem OpensWith.unique (opens : OpensWith letters line) (otherOpens : OpensWith others line)
    (sameLength : letters.length = others.length) : letters = others :=
  (List.prefix_of_prefix_length_le opens otherOpens (Nat.le_of_eq sameLength)).eq_of_length
    sameLength

def resultLine (value : Bool) : String :=
  "Final Result: " ++ Text.verdictWord value

theorem resultLine_opens (value : Bool) : OpensWith ['F', 'i'] (resultLine value) :=
  (opensWith_ofList ['F', 'i'] _).append _

theorem resultLine_inj {value other : Bool} (same : resultLine value = resultLine other) :
    value = other := by
  have sameWord := (String.append_right_inj _).mp same
  cases value <;> cases other <;> simp [Text.verdictWord] at sameWord ⊢

theorem tag_opens (heuristic : Heuristic) : OpensWith ['[', 'H'] heuristic.tag := by
  unfold Heuristic.tag
  simp only [String.append_assoc]
  exact (opensWith_ofList ['[', 'H'] _).append _

theorem rationale_opens (heuristic : Heuristic) :
    OpensWith ['T', 'h'] heuristic.rationale ∨ OpensWith ['I', 'm'] heuristic.rationale := by
  cases heuristic <;> unfold Heuristic.rationale <;> dsimp only
  · exact .inl ((opensWith_ofList ['T', 'h'] _).append _)
  · exact .inl ((opensWith_ofList ['T', 'h'] _).append _)
  · exact .inr ((opensWith_ofList ['I', 'm'] _).append _)
  · exact .inr ((opensWith_ofList ['I', 'm'] _).append _)
  · exact .inr ((opensWith_ofList ['I', 'm'] _).append _)

theorem factLine_opens (object : Object) (predicate : String) :
    OpensWith ['F', 'a'] (factLine object predicate) := by
  unfold factLine
  simp only [String.append_assoc]
  exact (opensWith_ofList ['F', 'a'] _).append _

theorem negationLine_opens (inner : Bool) : OpensWith ['N', 'O'] (negationLine inner) := by
  unfold negationLine
  simp only [String.append_assoc]
  exact (opensWith_ofList ['N', 'O'] _).append _

theorem binaryLine_opens (op : Connective) (left right value : Bool) :
    OpensWith ['('] (binaryLine op left right value) := by
  unfold binaryLine
  simp only [String.append_assoc]
  exact (opensWith_ofList ['('] _).append _

theorem conditionsLine_opens (shape : Implication) (classical violation value : Bool) :
    OpensWith ['C', 'l'] (conditionsLine shape classical violation value) := by
  unfold conditionsLine
  simp only [String.append_assoc]
  exact (opensWith_ofList ['C', 'l'] _).append _

theorem classicalLine_opens (classical diverges : Bool) :
    OpensWith ['C', 'l'] (classicalLine classical diverges) := by
  unfold classicalLine
  simp only [String.append_assoc]
  exact (opensWith_ofList ['C', 'l'] _).append _

theorem nested_opens {label : String} {part : Evaluation} (member : line ∈ nested label part) :
    OpensWith [' ', ' '] line := by
  rcases List.mem_cons.mp member with rfl | indented
  · simp only [String.append_assoc]
    exact (opensWith_ofList [' ', ' '] _).append _
  · obtain ⟨inner, _, rfl⟩ := List.mem_map.mp indented
    exact (opensWith_ofList [' ', ' '] _).append _

theorem annotationLines_opens {applies : Bool} {heuristic : Heuristic}
    (member : line ∈ annotationLines applies heuristic) :
    OpensWith ['[', 'H'] line ∨ OpensWith ['T', 'h'] line ∨ OpensWith ['I', 'm'] line := by
  cases applies with
  | false => contradiction
  | true =>
      rcases List.mem_cons.mp member with rfl | second
      · exact .inl (tag_opens heuristic)
      · cases List.mem_singleton.mp second
        exact .inr (rationale_opens heuristic)

theorem OpensWith.differs (opens : OpensWith letters line)
    (sameLength : letters.length = others.length) (different : letters ≠ others) :
    ¬ OpensWith others line :=
  fun otherOpens => different (opens.unique otherOpens sameLength)

theorem OpensWith.ne {other : String} (opens : OpensWith letters line)
    (otherOpens : OpensWith others other) (sameLength : letters.length = others.length)
    (different : letters ≠ others) : line ≠ other := by
  rintro rfl
  exact opens.differs sameLength different otherOpens

theorem not_result_of_mem_nested {label : String} {part : Evaluation}
    (member : line ∈ nested label part) : ¬ OpensWith ['F', 'i'] line :=
  (nested_opens member).differs rfl (by decide)

theorem not_result_of_mem_annotationLines {applies : Bool} {heuristic : Heuristic}
    (member : line ∈ annotationLines applies heuristic) : ¬ OpensWith ['F', 'i'] line := by
  rcases annotationLines_opens member with tag | opens | opens
  · exact tag.differs rfl (by decide)
  · exact opens.differs rfl (by decide)
  · exact opens.differs rfl (by decide)

theorem not_result_of_mem_binary {op : Connective} {value : Bool} {left right : Evaluation}
    (member : line ∈ (binary op value left right).derivation) : ¬ OpensWith ['F', 'i'] line := by
  rw [binary_derivation, List.mem_cons, List.mem_append] at member
  rcases member with rfl | part | part
  · intro result
    have parenthesis := binaryLine_opens op left.value right.value value
    have capital : ['F'] <+: ['F', 'i'] := by decide
    have clash : ['('] = ['F'] := parenthesis.unique (capital.trans result) rfl
    contradiction
  · exact not_result_of_mem_nested part
  · exact not_result_of_mem_nested part

theorem not_result_of_mem_derivation {object : Object} {formula : Formula}
    (member : line ∈ (formula.evaluate object).derivation) : ¬ OpensWith ['F', 'i'] line := by
  cases formula with
  | atom name =>
      rw [Formula.evaluate, ofFact_derivation, List.mem_cons] at member
      rcases member with rfl | note
      · exact (factLine_opens object name).differs rfl (by decide)
      · exact not_result_of_mem_annotationLines note
  | not inner =>
      rw [Formula.evaluate, negation_derivation, List.mem_cons] at member
      rcases member with rfl | part
      · exact (negationLine_opens _).differs rfl (by decide)
      · exact not_result_of_mem_nested part
  | and left right => exact not_result_of_mem_binary member
  | or left right => exact not_result_of_mem_binary member
  | implies antecedent consequent =>
      rw [Formula.evaluate, implication_derivation] at member
      simp only [List.mem_cons, List.mem_append] at member
      rcases member with rfl | rfl | part | part | notes
      · exact (conditionsLine_opens _ _ _ _).differs rfl (by decide)
      · exact (classicalLine_opens _ _).differs rfl (by decide)
      · exact not_result_of_mem_nested part
      · exact not_result_of_mem_nested part
      · simp only [implicationNotes, List.mem_append] at notes
        rcases notes with note | note | note
        all_goals exact not_result_of_mem_annotationLines note

theorem banner_opens :
    OpensWith ['=', '='] (banner "QUERY RESULT" "=") ∧
      OpensWith ['-', '-'] (banner "Derivation" "-") ∧ OpensWith ['=', '='] (banner "" "=") := by
  refine ⟨?_, ?_, ?_⟩ <;> decide +kernel

theorem classicalLines_opens (member : line ∈ classicalLines evaluation) :
    OpensWith ['C', 'l'] line := by
  unfold classicalLines at member
  cases classical : evaluation.classicalValue with
  | none =>
      rw [classical] at member
      contradiction
  | some value =>
      rw [classical] at member
      cases List.mem_singleton.mp member
      simp only [String.append_assoc]
      exact (opensWith_ofList ['C', 'l'] _).append _

/-- The openings of the lines of a report that are neither its result nor its derivation. -/
def frameOpenings : List (List Char) :=
  [['=', '='], ['E', 'x'], ['F', 'o'], ['C', 'l'], ['-', '-']]

/-- A line that opens unlike the frame of a report is the result or stands in the derivation. -/
theorem mem_query_iff {text objectName : String} (opens : OpensWith letters line)
    (twoLetters : letters.length = 2) (outside : letters ∉ frameOpenings) :
    line ∈ query text objectName evaluation ↔
      line = resultLine evaluation.value ∨ line ∈ evaluation.derivation := by
  have apart {other : String} {others : List Char} (otherOpens : OpensWith others other)
      (frame : others ∈ frameOpenings) (sameLength : others.length = 2) : line ≠ other := by
    rintro rfl
    have same := opens.unique otherOpens (twoLetters.trans sameLength.symm)
    exact outside (same ▸ frame)
  have notEmpty : line ≠ "" := by
    rintro rfl
    have short := opens.length_le
    simp [twoLetters] at short
  have notExpression : line ≠ "Expression: " ++ text :=
    apart ((opensWith_ofList ['E', 'x'] _).append _) (by decide) rfl
  have notObject : line ≠ "For Object: " ++ objectName :=
    apart ((opensWith_ofList ['F', 'o'] _).append _) (by decide) rfl
  have notClassical : line ∉ classicalLines evaluation := fun member =>
    apart (classicalLines_opens member) (by decide) rfl rfl
  have notTop : line ≠ banner "QUERY RESULT" "=" := apart banner_opens.1 (by decide) rfl
  have notMiddle : line ≠ banner "Derivation" "-" := apart banner_opens.2.1 (by decide) rfl
  have notBottom : line ≠ banner "" "=" := apart banner_opens.2.2 (by decide) rfl
  unfold query
  simp only [List.mem_append, List.mem_cons, List.not_mem_nil, or_false, notEmpty, notExpression,
    notObject, notClassical, notTop, notMiddle, notBottom, false_or]
  rfl

/-- The result in a report is the value of the formula. No other line looks like a result. -/
theorem resultLine_mem_query {text objectName : String} {object : Object} {formula : Formula}
    {value : Bool} :
    resultLine value ∈ query text objectName (formula.evaluate object) ↔
      (formula.evaluate object).value = value := by
  rw [mem_query_iff (resultLine_opens value) rfl (by decide)]
  constructor
  · rintro (same | member)
    · exact (resultLine_inj same).symm
    · exact absurd (resultLine_opens value) (not_result_of_mem_derivation member)
  · rintro rfl
    exact .inl rfl

theorem tag_mem_query {text objectName : String} {heuristic : Heuristic} :
    heuristic.tag ∈ query text objectName evaluation ↔ heuristic.tag ∈ evaluation.derivation := by
  have notResult : heuristic.tag ≠ resultLine evaluation.value :=
    (tag_opens heuristic).ne (resultLine_opens _) rfl (by decide)
  rw [mem_query_iff (tag_opens heuristic) rfl (by decide), or_iff_right notResult]

/-- A fact is tagged with the closed world exactly if nothing was stated. -/
theorem closedWorld_mem_ofFact {object : Object} {predicate : String} :
    Heuristic.closedWorld.tag ∈ (ofFact object predicate).derivation ↔
      object.stated? predicate = none := by
  have notFact : Heuristic.closedWorld.tag ≠ factLine object predicate :=
    (tag_opens .closedWorld).ne (factLine_opens object predicate) rfl (by decide)
  rw [ofFact_derivation, List.mem_cons, or_iff_right notFact]
  cases object.stated? predicate <;> simp [annotationLines]

end Connexive.Report
