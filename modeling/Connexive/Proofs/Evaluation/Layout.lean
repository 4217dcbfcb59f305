import Connexive.Evaluation.Compound

namespace Connexive.Evaluation

/-! How a derivation is laid out. It opens with a line of its own; each part follows under a label,
indented as a whole; what an annotation adds stands at the margin. So a block ends where the
indentation does, and derivations that agree as lists of lines agree block by block.
-/

variable {evaluation part other : Evaluation} {heuristic : Heuristic} {applies : Bool}
  {lines others rest otherRest : List String}

@[simp] theorem merge_derivation (heuristics : List Heuristic) :
    (evaluation.merge heuristics).derivation = evaluation.derivation := rfl

@[simp] theorem appendLines_derivation (lines : List String) :
    (evaluation.appendLines lines).derivation = evaluation.derivation ++ lines := rfl

/-- The lines of an annotation that is made only if `applies`. -/
def annotationLines (applies : Bool) (heuristic : Heuristic) : List String :=
  if applies then [heuristic.tag, heuristic.rationale] else []

@[simp] theorem annotateIf_derivation (applies : Bool) (heuristic : Heuristic) :
    (evaluation.annotateIf applies heuristic).derivation =
      evaluation.derivation ++ annotationLines applies heuristic := by
  cases applies with
  | false => exact (List.append_nil _).symm
  | true => rfl

def AtMargin (line : String) : Prop :=
  line.toList.take 4 ≠ [' ', ' ', ' ', ' ']

/-- Lines that an indented block may stand before: the first of them, if there is one, does not
continue it. -/
def EndsBlock (rest : List String) : Prop :=
  ∀ line ∈ rest.head?, AtMargin line

theorem indent_not_atMargin (line : String) : ¬ AtMargin (indent line) := by
  simp [AtMargin, indent]

theorem endsBlock_nil : EndsBlock [] := by
  simp [EndsBlock]

theorem endsBlock_nested (label : String) (part : Evaluation) (rest : List String) :
    EndsBlock (nested label part ++ rest) := by
  simp [EndsBlock, nested, AtMargin]

theorem EndsBlock.annotationLines_append (ends : EndsBlock rest) (applies : Bool)
    (heuristic : Heuristic) : EndsBlock (annotationLines applies heuristic ++ rest) := by
  cases applies with
  | false => exact ends
  | true => simp [EndsBlock, annotationLines, AtMargin, Heuristic.tag]

theorem indent_block_inj (ends : EndsBlock rest) (otherEnds : EndsBlock otherRest)
    (same : lines.map indent ++ rest = others.map indent ++ otherRest) :
    lines = others ∧ rest = otherRest := by
  induction lines generalizing others with
  | nil =>
      cases others with
      | nil => exact ⟨rfl, same⟩
      | cons other others =>
          have first : indent other ∈ rest.head? := by
            rw [List.map_nil, List.nil_append] at same
            simp [same]
          exact absurd (ends _ first) (indent_not_atMargin other)
  | cons line lines linesIH =>
      cases others with
      | nil =>
          have first : indent line ∈ otherRest.head? := by
            rw [List.map_nil, List.nil_append] at same
            simp [← same]
          exact absurd (otherEnds _ first) (indent_not_atMargin line)
      | cons other others =>
          simp only [List.map_cons, List.cons_append, List.cons.injEq] at same
          obtain ⟨sameLine, sameRest⟩ := same
          have unindented : line = other := by simpa [indent] using sameLine
          obtain ⟨sameLines, after⟩ := linesIH sameRest
          exact ⟨by rw [unindented, sameLines], after⟩

/-- A part stands in its block unchanged, and the block shows where it ends. -/
theorem nested_append_inj {label : String} (ends : EndsBlock rest) (otherEnds : EndsBlock otherRest)
    (same : nested label part ++ rest = nested label other ++ otherRest) :
    part.derivation = other.derivation ∧ rest = otherRest := by
  simp only [nested, List.cons_append, List.cons.injEq, true_and] at same
  exact indent_block_inj ends otherEnds same

theorem nested_inj {label : String} (same : nested label part = nested label other) :
    part.derivation = other.derivation := by
  have appended : nested label part ++ [] = nested label other ++ [] := by
    rw [same]
  exact (nested_append_inj endsBlock_nil endsBlock_nil appended).1

/-- The line of a fact tells the predicate and whether it holds, whatever the names are like: read
from its end, past the name of the object, the two verdicts differ in their second letter. -/
theorem factLine_inj {first second : Object} {predicate otherPredicate : String}
    (sameName : first.name = second.name)
    (same : factLine first predicate = factLine second otherPredicate) :
    predicate = otherPredicate ∧ first.holds predicate = second.holds otherPredicate := by
  have sameStart : "Fact '" ++ predicate ++ "' is " ++ Text.verdictWord (first.holds predicate) =
      "Fact '" ++ otherPredicate ++ "' is " ++
        Text.verdictWord (second.holds otherPredicate) := by
    simpa [factLine, sameName] using same
  have fromEnd := congrArg (fun line => line.toList.reverse) sameStart
  cases holds : first.holds predicate <;> cases otherHolds : second.holds otherPredicate <;>
    simp [holds, otherHolds, Text.verdictWord] at fromEnd
  all_goals exact ⟨by simpa [holds, otherHolds] using sameStart, rfl⟩

theorem ofFact_derivation (object : Object) (predicate : String) :
    (ofFact object predicate).derivation =
      factLine object predicate ::
        annotationLines (object.stated? predicate).isNone .closedWorld := by
  simp only [ofFact, annotateIf_derivation, appendLines_derivation]
  rfl

theorem ofFact_derivation_inj {object otherObject : Object} {name otherName : String}
    (sameName : object.name = otherObject.name)
    (same : (ofFact object name).derivation = (ofFact otherObject otherName).derivation) :
    name = otherName ∧ object.stated? name = otherObject.stated? name := by
  rw [ofFact_derivation, ofFact_derivation, List.cons.injEq] at same
  obtain ⟨sameLine, sameNote⟩ := same
  obtain ⟨rfl, sameTruth⟩ := factLine_inj sameName sameLine
  refine ⟨rfl, ?_⟩
  -- The annotation tells whether anything is stated, and the line tells what.
  cases stated : object.stated? name <;> cases otherStated : otherObject.stated? name <;>
    simp_all [annotationLines, Object.holds]

theorem negation_derivation (inner : Evaluation) :
    (negation inner).derivation =
      negationLine inner.value :: nested "Inner Derivation" inner := rfl

theorem binary_derivation (op : Connective) (value : Bool) (left right : Evaluation) :
    (binary op value left right).derivation =
      binaryLine op left.value right.value value ::
        (nested "Left Derivation" left ++ nested "Right Derivation" right) := rfl

theorem binary_derivation_inj {op : Connective} {value otherValue : Bool}
    {left right otherLeft otherRight : Evaluation}
    (same : (binary op value left right).derivation =
      (binary op otherValue otherLeft otherRight).derivation) :
    left.derivation = otherLeft.derivation ∧ right.derivation = otherRight.derivation := by
  rw [binary_derivation, binary_derivation, List.cons.injEq] at same
  have bounded (part : Evaluation) : EndsBlock (nested "Right Derivation" part) := by
    have ends := endsBlock_nested "Right Derivation" part []
    rwa [List.append_nil] at ends
  obtain ⟨sameLeft, sameRest⟩ := nested_append_inj (bounded right) (bounded otherRight) same.2
  exact ⟨sameLeft, nested_inj sameRest⟩

/-- The first capital of a line. On the opening line of a derivation it tells the connective. -/
def firstCapital? (line : String) : Option Char :=
  line.toList.find? Char.isUpper

theorem firstCapital?_append (before after : String) :
    firstCapital? (before ++ after) = (firstCapital? before).or (firstCapital? after) := by
  simp [firstCapital?]

theorem firstCapital?_of_opening {opening : String} {capital : Char}
    (opens : firstCapital? opening = some capital) (rest : String) :
    firstCapital? (opening ++ rest) = some capital := by
  rw [firstCapital?_append, opens, Option.some_or]

theorem firstCapital?_after_truthWord (value : Bool) (rest : String) :
    firstCapital? (Text.truthWord value ++ rest) = firstCapital? rest := by
  have noCapital : firstCapital? (Text.truthWord value) = none := by
    cases value <;> rfl
  rw [firstCapital?_append, noCapital, Option.none_or]

theorem firstCapital?_factLine (object : Object) (predicate : String) :
    firstCapital? (factLine object predicate) = some 'F' := by
  unfold factLine
  simp only [String.append_assoc]
  exact firstCapital?_of_opening rfl _

theorem firstCapital?_negationLine (inner : Bool) :
    firstCapital? (negationLine inner) = some 'N' := by
  unfold negationLine
  simp only [String.append_assoc]
  exact firstCapital?_of_opening rfl _

theorem firstCapital?_binaryLine {op : Connective} {capital : Char}
    (keyword : firstCapital? op.keyword = some capital) (left right value : Bool) :
    firstCapital? (binaryLine op left right value) = some capital := by
  have parenthesis (rest : String) : firstCapital? ("(" ++ rest) = firstCapital? rest :=
    firstCapital?_append "(" rest
  have space (rest : String) : firstCapital? (" " ++ rest) = firstCapital? rest :=
    firstCapital?_append " " rest
  unfold binaryLine
  simp only [String.append_assoc]
  rw [parenthesis, firstCapital?_after_truthWord, space]
  exact firstCapital?_of_opening keyword _

def conditionsLine (shape : Implication) (classical violation value : Bool) : String :=
  "Classical: " ++ Text.truthWord classical ++ ", Relevant: " ++ Text.truthWord shape.isRelevant ++
    ", Aristotle Coherent: " ++ Text.truthWord shape.isAristotleCoherent ++
    ", Boethius Coherent: " ++ Text.truthWord (!violation) ++
    " -> Final: " ++ Text.truthWord value

def classicalLine (classical diverges : Bool) : String :=
  "Classical material implication gives: " ++ Text.truthWord classical ++
    (if diverges then " (diverges from classical logic)" else "")

/-- The annotations of an implication, one for each condition that fails. -/
def implicationNotes (shape : Implication) (violation : Bool) : List String :=
  annotationLines (!shape.isRelevant) .relevance ++
    (annotationLines (!shape.isAristotleCoherent) .aristotleThesis ++
      annotationLines violation .boethiusThesis)

theorem implication_derivation (shape : Implication) (antecedent consequent : Evaluation) :
    let classical := !antecedent.value || consequent.value
    let violation := classical && (!antecedent.value || !consequent.value)
    let value := classical && shape.isRelevant && shape.isAristotleCoherent && !violation
    (implication shape antecedent consequent).derivation =
      conditionsLine shape classical violation value ::
        classicalLine classical (value != classical) ::
          (nested "Antecedent Derivation" antecedent ++
            (nested "Consequent Derivation" consequent ++ implicationNotes shape violation)) := by
  simp only [implication, annotateIf_derivation, merge_derivation, appendLines_derivation,
    ofValue, List.nil_append, List.cons_append, List.append_assoc]
  rfl

theorem endsBlock_implicationNotes (shape : Implication) (violation : Bool) :
    EndsBlock (implicationNotes shape violation) := by
  have last : EndsBlock (annotationLines violation .boethiusThesis) := by
    have ends := endsBlock_nil.annotationLines_append violation .boethiusThesis
    rwa [List.append_nil] at ends
  exact (last.annotationLines_append _ _).annotationLines_append _ _

theorem firstCapital?_conditionsLine (shape : Implication) (classical violation value : Bool) :
    firstCapital? (conditionsLine shape classical violation value) = some 'C' := by
  unfold conditionsLine
  simp only [String.append_assoc]
  exact firstCapital?_of_opening rfl _

theorem implication_derivation_inj {shape otherShape : Implication}
    {antecedent consequent otherAntecedent otherConsequent : Evaluation}
    (same : (implication shape antecedent consequent).derivation =
      (implication otherShape otherAntecedent otherConsequent).derivation) :
    antecedent.derivation = otherAntecedent.derivation ∧
      consequent.derivation = otherConsequent.derivation := by
  rw [implication_derivation, implication_derivation, List.cons.injEq, List.cons.injEq] at same
  obtain ⟨sameAntecedent, sameRest⟩ :=
    nested_append_inj (endsBlock_nested _ _ _) (endsBlock_nested _ _ _) same.2.2
  have sameConsequent :=
    nested_append_inj (endsBlock_implicationNotes _ _) (endsBlock_implicationNotes _ _) sameRest
  exact ⟨sameAntecedent, sameConsequent.1⟩

end Connexive.Evaluation
