import Connexive.Proofs.Evaluation.Layout
import Connexive.Proofs.Repetition

namespace Connexive.Evaluation

/-! What an evaluation notes of its departures from classical rules. A compound merges the heuristics
of its parts and shows their tags with their lines, so both tell the same notes in the same order:
the tags one by one, the heuristics without repetition. No other line looks like a tag, because
the first capital of a tag is its own.
-/

variable {evaluation left right inner antecedent consequent : Evaluation}
  {notes leftNotes rightNotes : List Heuristic} {line label : String} {heuristic : Heuristic}

/-- Merging keeps what was noted first and appends what is new. -/
theorem mergeHeuristics_eraseDups (noted more : List Heuristic) :
    mergeHeuristics noted.eraseDups more = (noted ++ more).eraseDups := by
  induction more generalizing noted with
  | nil => rw [mergeHeuristics, List.append_nil]
  | cons heuristic more moreIH =>
      have next : (if noted.eraseDups.contains heuristic then noted.eraseDups
          else noted.eraseDups ++ [heuristic]) = (noted ++ [heuristic]).eraseDups := by
        by_cases known : heuristic ∈ noted
        · simp [known, eraseDups_concat_of_mem]
        · simp [known, eraseDups_concat_of_notMem]
      rw [mergeHeuristics, next, moreIH, List.append_assoc, List.singleton_append]

theorem mergeHeuristics_notes (noted more : List Heuristic) :
    mergeHeuristics noted.eraseDups more.eraseDups = (noted ++ more).eraseDups := by
  rw [mergeHeuristics_eraseDups, eraseDups_append_eraseDups]

/-- A line without the spaces that indent it. -/
def unindented (line : String) : String :=
  String.ofList (line.toList.dropWhile (· = ' '))

@[simp] theorem unindented_indent (line : String) : unindented (indent line) = unindented line := by
  simp [unindented, indent]

theorem unindented_ofList_append {first : Char} (visible : first ≠ ' ') (letters : List Char)
    (rest : String) :
    unindented (String.ofList (first :: letters) ++ rest) =
      String.ofList (first :: letters) ++ rest := by
  simp [unindented, visible, String.append_assoc]

theorem unindented_tag (heuristic : Heuristic) : unindented heuristic.tag = heuristic.tag := by
  unfold Heuristic.tag
  simp only [String.append_assoc]
  exact unindented_ofList_append (by decide : '[' ≠ ' ') _ _

theorem unindented_rationale (heuristic : Heuristic) :
    unindented heuristic.rationale = heuristic.rationale := by
  cases heuristic with
  | closedWorld | vacuousTruthRejection =>
      exact unindented_ofList_append (by decide : 'T' ≠ ' ') _ _
  | relevance | aristotleThesis | boethiusThesis =>
      exact unindented_ofList_append (by decide : 'I' ≠ ' ') _ _

theorem unindented_factLine (object : Object) (predicate : String) :
    unindented (factLine object predicate) = factLine object predicate := by
  unfold factLine
  simp only [String.append_assoc]
  exact unindented_ofList_append (by decide : 'F' ≠ ' ') _ _

theorem firstCapital?_unindented (line : String) :
    firstCapital? (unindented line) = firstCapital? line := by
  rw [firstCapital?, firstCapital?, unindented, String.toList_ofList]
  induction line.toList with
  | nil => rfl
  | cons c rest restIH =>
      by_cases space : c = ' '
      · subst space
        exact restIH
      · rw [List.dropWhile_cons_of_neg (by simpa using space)]

/-- The heuristic that a line tags, at any indentation. -/
def tagOf? (line : String) : Option Heuristic :=
  [.closedWorld, .vacuousTruthRejection, .relevance, .aristotleThesis, .boethiusThesis].find?
    fun heuristic => heuristic.tag == unindented line

theorem tagOf?_eq_some_iff : tagOf? line = some heuristic ↔ unindented line = heuristic.tag := by
  unfold tagOf?
  constructor
  · intro found
    have matched := List.find?_some found
    exact (eq_of_beq matched).symm
  · intro tagged
    rw [tagged]
    cases heuristic <;> decide

/-- The tags among the lines, in order and with repetition. -/
def tagsOf (lines : List String) : List Heuristic :=
  lines.filterMap tagOf?

theorem mem_tagsOf_iff {lines : List String} :
    heuristic ∈ tagsOf lines ↔ ∃ line ∈ lines, unindented line = heuristic.tag := by
  simp only [tagsOf, List.mem_filterMap, tagOf?_eq_some_iff]

theorem tagsOf_append (lines more : List String) :
    tagsOf (lines ++ more) = tagsOf lines ++ tagsOf more :=
  List.filterMap_append

theorem tagsOf_indent (lines : List String) : tagsOf (lines.map indent) = tagsOf lines := by
  have sameTag (line : String) : tagOf? (indent line) = tagOf? line := by
    rw [tagOf?, tagOf?, unindented_indent]
  simp [tagsOf, List.filterMap_map, sameTag]

theorem firstCapital?_tag (heuristic : Heuristic) : firstCapital? heuristic.tag = some 'H' := by
  unfold Heuristic.tag
  simp only [String.append_assoc]
  exact firstCapital?_of_opening rfl _

theorem firstCapital?_ofList (capital : Char) (upper : capital.isUpper = true) (rest : List Char) :
    firstCapital? (String.ofList (capital :: rest)) = some capital := by
  simp [firstCapital?, upper]

/-- A line that is neither a tag nor a fact, as its first capital tells. -/
def Plain (line : String) : Prop :=
  ∃ capital, firstCapital? line = some capital ∧ capital ≠ 'H' ∧ capital ≠ 'F'

@[simp] theorem plain_unindented : Plain (unindented line) ↔ Plain line := by
  simp only [Plain, firstCapital?_unindented]

theorem plain_rationale (heuristic : Heuristic) : Plain heuristic.rationale := by
  cases heuristic with
  | closedWorld | vacuousTruthRejection =>
      exact ⟨'T', firstCapital?_of_opening (firstCapital?_ofList 'T' rfl _) _, by decide⟩
  | relevance | aristotleThesis | boethiusThesis =>
      exact ⟨'I', firstCapital?_of_opening (firstCapital?_ofList 'I' rfl _) _, by decide⟩

theorem plain_negationLine (inner : Bool) : Plain (negationLine inner) :=
  ⟨'N', firstCapital?_negationLine inner, by decide⟩

theorem plain_binaryLine (op : Connective) (left right value : Bool) :
    Plain (binaryLine op left right value) := by
  cases op with
  | not => exact ⟨'N', firstCapital?_binaryLine rfl _ _ _, by decide⟩
  | and => exact ⟨'A', firstCapital?_binaryLine rfl _ _ _, by decide⟩
  | or => exact ⟨'O', firstCapital?_binaryLine rfl _ _ _, by decide⟩
  | implies => exact ⟨'R', firstCapital?_binaryLine rfl _ _ _, by decide⟩

theorem plain_conditionsLine (shape : Implication) (classical violation value : Bool) :
    Plain (conditionsLine shape classical violation value) :=
  ⟨'C', firstCapital?_conditionsLine shape classical violation value, by decide⟩

theorem plain_classicalLine (classical diverges : Bool) :
    Plain (classicalLine classical diverges) := by
  unfold classicalLine
  simp only [String.append_assoc]
  exact ⟨'C', firstCapital?_of_opening rfl _, by decide⟩

theorem Plain.labelLine (plain : Plain label) : Plain ("  - " ++ label ++ "...") := by
  obtain ⟨capital, opens, other⟩ := plain
  have dash : firstCapital? "  - " = none := rfl
  refine ⟨capital, ?_, other⟩
  rw [String.append_assoc, firstCapital?_append, dash, Option.none_or]
  exact firstCapital?_of_opening opens _

theorem tagOf?_of_capital {capital : Char} (opens : firstCapital? line = some capital)
    (other : capital ≠ 'H') : tagOf? line = none := by
  refine Option.eq_none_iff_forall_ne_some.mpr fun heuristic tagged => ?_
  have same := firstCapital?_unindented line
  rw [tagOf?_eq_some_iff.mp tagged, firstCapital?_tag, opens] at same
  exact other (Option.some.inj same).symm

theorem tagsOf_cons_of_capital {capital : Char} (opens : firstCapital? line = some capital)
    (other : capital ≠ 'H') (lines : List String) : tagsOf (line :: lines) = tagsOf lines :=
  List.filterMap_cons_none (tagOf?_of_capital opens other)

/-- No fact is taken for a tag, however its predicate and object are named. -/
theorem tagOf?_indented_factLine (object : Object) (predicate : String) (spaces : Nat) :
    tagOf? (String.ofList (List.replicate spaces ' ') ++ factLine object predicate) = none := by
  have blank : firstCapital? (String.ofList (List.replicate spaces ' ')) = none := by
    simp [firstCapital?]
  have opens : firstCapital?
      (String.ofList (List.replicate spaces ' ') ++ factLine object predicate) = some 'F' := by
    rw [firstCapital?_append, blank, Option.none_or, firstCapital?_factLine]
  exact tagOf?_of_capital opens (by decide)

theorem Plain.tagOf?_eq_none (plain : Plain line) : tagOf? line = none := by
  obtain ⟨capital, opens, other, _⟩ := plain
  exact tagOf?_of_capital opens other

theorem Plain.tagsOf_cons (plain : Plain line) (lines : List String) :
    tagsOf (line :: lines) = tagsOf lines :=
  List.filterMap_cons_none plain.tagOf?_eq_none

theorem tagsOf_nested (plain : Plain label) (part : Evaluation) :
    tagsOf (nested label part) = tagsOf part.derivation := by
  rw [nested, plain.labelLine.tagsOf_cons, tagsOf_indent]

/-- What is noted of a heuristic that applies or does not. -/
def noted (applies : Bool) (heuristic : Heuristic) : List Heuristic :=
  if applies then [heuristic] else []

@[simp] theorem mem_noted_iff {applies : Bool} {sought : Heuristic} :
    sought ∈ noted applies heuristic ↔ applies = true ∧ sought = heuristic := by
  cases applies <;> simp [noted]

theorem tagsOf_annotationLines (applies : Bool) (heuristic : Heuristic) :
    tagsOf (annotationLines applies heuristic) = noted applies heuristic := by
  cases applies with
  | false => rfl
  | true =>
      have tagged := tagOf?_eq_some_iff.mpr (unindented_tag heuristic)
      have explained := (plain_rationale heuristic).tagOf?_eq_none
      simp [tagsOf, annotationLines, noted, tagged, explained]

/-- The notes of an evaluation, in the order in which they are made: its tags are all of them, its
heuristics each of them once. -/
structure Notes (evaluation : Evaluation) (notes : List Heuristic) : Prop where
  heuristics : evaluation.heuristics = notes.eraseDups
  tags : tagsOf evaluation.derivation = notes

theorem annotateIf_heuristics (applies : Bool) (heuristic : Heuristic) :
    (evaluation.annotateIf applies heuristic).heuristics =
      mergeHeuristics evaluation.heuristics (noted applies heuristic) := by
  cases applies <;> rfl

theorem notes_ofFact (object : Object) (predicate : String) :
    Notes (ofFact object predicate) (noted (object.stated? predicate).isNone .closedWorld) := by
  constructor
  · rw [ofFact, annotateIf_heuristics]
    exact mergeHeuristics_eraseDups [] _
  · rw [ofFact_derivation, tagsOf_cons_of_capital (firstCapital?_factLine _ _) (by decide),
      tagsOf_annotationLines]

theorem Notes.negation (noting : Notes inner notes) : Notes (negation inner) notes := by
  constructor
  · have merged := mergeHeuristics_notes [] notes
    rw [← noting.heuristics] at merged
    exact merged
  · rw [negation_derivation, (plain_negationLine _).tagsOf_cons,
      tagsOf_nested ⟨'I', rfl, by decide⟩, noting.tags]

theorem Notes.merged (leftNoting : Notes left leftNotes) (rightNoting : Notes right rightNotes) :
    mergeHeuristics (mergeHeuristics [] left.heuristics) right.heuristics =
      (leftNotes ++ rightNotes).eraseDups := by
  have first : mergeHeuristics [] leftNotes.eraseDups = leftNotes.eraseDups :=
    mergeHeuristics_notes [] leftNotes
  rw [leftNoting.heuristics, rightNoting.heuristics, first, mergeHeuristics_notes]

theorem Notes.binary (op : Connective) (value : Bool) (leftNoting : Notes left leftNotes)
    (rightNoting : Notes right rightNotes) :
    Notes (binary op value left right) (leftNotes ++ rightNotes) := by
  constructor
  · exact leftNoting.merged rightNoting
  · rw [binary_derivation, (plain_binaryLine _ _ _ _).tagsOf_cons, tagsOf_append,
      tagsOf_nested ⟨'L', rfl, by decide⟩, tagsOf_nested ⟨'R', rfl, by decide⟩, leftNoting.tags,
      rightNoting.tags]

/-- Whatever the consequent is, what an antecedent implies together with its opposite is implied by
its being false. -/
theorem boethiusViolation_eq (antecedent consequent : Bool) :
    ((!antecedent || consequent) && (!antecedent || !consequent)) = !antecedent := by
  cases antecedent <;> cases consequent <;> rfl

theorem Notes.implication (shape : Implication) (leftNoting : Notes antecedent leftNotes)
    (rightNoting : Notes consequent rightNotes) :
    Notes (implication shape antecedent consequent)
      (leftNotes ++ rightNotes ++ noted (!shape.isRelevant) .relevance ++
        noted (!shape.isAristotleCoherent) .aristotleThesis ++
        noted (!antecedent.value) .boethiusThesis) := by
  constructor
  · have merged := leftNoting.merged rightNoting
    simp only [Evaluation.implication, annotateIf_heuristics, boethiusViolation_eq]
    rw [← mergeHeuristics_eraseDups, ← mergeHeuristics_eraseDups, ← mergeHeuristics_eraseDups,
      ← merged]
    rfl
  · rw [implication_derivation, (plain_conditionsLine _ _ _ _).tagsOf_cons,
      (plain_classicalLine _ _).tagsOf_cons, tagsOf_append, tagsOf_append, implicationNotes,
      tagsOf_append, tagsOf_append, tagsOf_nested ⟨'A', rfl, by decide⟩,
      tagsOf_nested ⟨'C', rfl, by decide⟩, leftNoting.tags, rightNoting.tags, boethiusViolation_eq]
    simp only [tagsOf_annotationLines, List.append_assoc]

end Connexive.Evaluation
