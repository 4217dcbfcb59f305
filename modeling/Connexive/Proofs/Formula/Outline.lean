import Connexive.Proofs.Formula.Notes
import Connexive.Proofs.Report.Result

namespace Connexive

/-! The outline of a derivation. Every part of a formula opens its own derivation with one line, which
stands indented by the depth of the part, and the parts come in the order of reading. So the facts
come in the order of the atoms, each of them once for each time the atom stands in the formula.
-/

namespace Evaluation

open Report

variable {line : String} {first : Char} {letters : List Char}

/-- What the first line of a derivation begins with: a fact, a negation, two operands or the
conditions of an implication. -/
def openings : List String :=
  ["Fact '", "NOT evaluates to ", "(", "Classical: "]

/-- A line that opens a derivation, at any indentation. -/
def IsOpening (line : String) : Prop :=
  ∃ opening ∈ openings, OpensWith opening.toList (unindented line)

instance : DecidablePred IsOpening := fun line =>
  inferInstanceAs (Decidable (∃ opening ∈ openings, OpensWith opening.toList (unindented line)))

/-- A line about a fact, at any indentation. -/
def IsFact (line : String) : Prop :=
  OpensWith "Fact '".toList (unindented line)

instance : DecidablePred IsFact := fun line =>
  inferInstanceAs (Decidable (OpensWith "Fact '".toList (unindented line)))

/-- A line at the indentation of a part that stands within `depth` others. -/
def atDepth (depth : Nat) (line : String) : String :=
  String.ofList (List.replicate (4 * depth) ' ') ++ line

theorem atDepth_zero (line : String) : atDepth 0 line = line := by
  simp [atDepth]

theorem indent_atDepth (depth : Nat) (line : String) :
    indent (atDepth depth line) = atDepth (depth + 1) line := by
  have spaces : List.replicate (4 * (depth + 1)) ' ' =
      [' ', ' ', ' ', ' '] ++ List.replicate (4 * depth) ' ' := by
    rw [Nat.mul_succ, Nat.add_comm, List.replicate_add]
    rfl
  rw [atDepth, atDepth, spaces, String.ofList_append, String.append_assoc]
  rfl

theorem unindented_atDepth (depth : Nat) (line : String) :
    unindented (atDepth depth line) = unindented line := by
  induction depth with
  | zero => rw [atDepth_zero]
  | succ depth depthIH => rw [← indent_atDepth, unindented_indent, depthIH]

theorem opensWith_append (opening rest : String) : OpensWith opening.toList (opening ++ rest) := by
  rw [OpensWith, String.toList_append]
  exact List.prefix_append _ _

theorem isFact_atDepth (depth : Nat) : IsFact (atDepth depth line) ↔ IsFact line := by
  rw [IsFact, IsFact, unindented_atDepth]

theorem IsFact.not_plain (fact : IsFact line) : ¬ Plain line := by
  rintro ⟨capital, opens, _, other⟩
  obtain ⟨rest, reads⟩ := fact
  have capitalF : firstCapital? (unindented line) = some 'F' := by
    rw [firstCapital?, ← reads]
    rfl
  rw [firstCapital?_unindented, opens] at capitalF
  exact other (Option.some.inj capitalF)

theorem isOpening_of_isFact (fact : IsFact line) : IsOpening line :=
  ⟨"Fact '", by simp [openings], fact⟩

theorem not_isOpening (opens : OpensWith letters (unindented line))
    (apart : ∀ opening ∈ openings, ¬ opening.toList <+: letters ∧ ¬ letters <+: opening.toList) :
    ¬ IsOpening line := by
  rintro ⟨opening, member, opensSo⟩
  obtain ⟨notBefore, notAfter⟩ := apart opening member
  rcases List.prefix_or_prefix_of_prefix opensSo opens with before | after
  · exact notBefore before
  · exact notAfter after

theorem isOpening_indent : IsOpening (indent line) ↔ IsOpening line := by
  simp only [IsOpening, unindented_indent]

theorem not_isOpening_label (label : String) : ¬ IsOpening ("  - " ++ label ++ "...") := by
  have dash : unindented ("  - " ++ label ++ "...") = "- " ++ (label ++ "...") := by
    simp [unindented, ← String.toList_inj]
  have opens : OpensWith ['-', ' '] (unindented ("  - " ++ label ++ "...")) := by
    rw [dash]
    exact opensWith_append "- " _
  exact not_isOpening opens (by decide)

theorem not_isOpening_tag (heuristic : Heuristic) : ¬ IsOpening heuristic.tag := by
  have opens := tag_opens heuristic
  rw [← unindented_tag] at opens
  exact not_isOpening opens (by decide)

theorem not_isOpening_rationale (heuristic : Heuristic) : ¬ IsOpening heuristic.rationale := by
  have opens := rationale_opens heuristic
  rw [← unindented_rationale] at opens
  rcases opens with opens | opens
  · exact not_isOpening opens (by decide)
  · exact not_isOpening opens (by decide)

theorem unindented_of_opens (opens : OpensWith (first :: letters) line) (visible : first ≠ ' ') :
    unindented line = line := by
  obtain ⟨rest, reads⟩ := opens
  rw [unindented, ← reads, List.cons_append, List.dropWhile_cons_of_neg (by simpa using visible),
    ← List.cons_append, reads, String.ofList_toList]

/-- The second line of an implication begins as the first does, but with another word. -/
theorem not_isOpening_classicalLine (classical diverges : Bool) :
    ¬ IsOpening (classicalLine classical diverges) := by
  have visible := unindented_of_opens (classicalLine_opens classical diverges) (by decide)
  have opens : OpensWith "Classical material implication gives: ".toList
      (unindented (classicalLine classical diverges)) := by
    rw [visible]
    unfold classicalLine
    rw [String.append_assoc]
    exact opensWith_append _ _
  exact not_isOpening opens (by decide)

theorem isFact_factLine (object : Object) (predicate : String) :
    IsFact (factLine object predicate) := by
  rw [IsFact, unindented_factLine, factLine]
  simp only [String.append_assoc]
  exact opensWith_append _ _

theorem isOpening_negationLine (inner : Bool) : IsOpening (negationLine inner) := by
  refine ⟨"NOT evaluates to ", by simp [openings], ?_⟩
  rw [unindented_of_opens (negationLine_opens inner) (by decide)]
  unfold negationLine
  simp only [String.append_assoc]
  exact opensWith_append _ _

theorem isOpening_binaryLine (op : Connective) (left right value : Bool) :
    IsOpening (binaryLine op left right value) := by
  refine ⟨"(", by simp [openings], ?_⟩
  rw [unindented_of_opens (binaryLine_opens op left right value) (by decide)]
  exact binaryLine_opens op left right value

theorem isOpening_conditionsLine (shape : Implication) (classical violation value : Bool) :
    IsOpening (conditionsLine shape classical violation value) := by
  refine ⟨"Classical: ", by simp [openings], ?_⟩
  rw [unindented_of_opens (conditionsLine_opens shape classical violation value) (by decide)]
  unfold conditionsLine
  simp only [String.append_assoc]
  exact opensWith_append _ _

/-- The conditions of an implication decide its value. -/
theorem implication_value (shape : Implication) (antecedent consequent : Evaluation) :
    let classical := !antecedent.value || consequent.value
    let violation := classical && (!antecedent.value || !consequent.value)
    (implication shape antecedent consequent).value =
      (classical && shape.isRelevant && shape.isAristotleCoherent && !violation) := by
  have verdict := implication_verdict shape antecedent consequent
  have value : (implication shape antecedent consequent).value = _ :=
    congrArg Verdict.value verdict
  rw [value]
  cases antecedent.value <;> cases consequent.value <;> simp

theorem filter_nested (label : String) (part : Evaluation) :
    (nested label part).filter IsOpening = (part.derivation.filter IsOpening).map indent := by
  rw [nested, List.filter_cons_of_neg (by simpa using not_isOpening_label label), List.filter_map]
  simp only [Function.comp_def, isOpening_indent]

theorem filter_annotationLines (applies : Bool) (heuristic : Heuristic) :
    (annotationLines applies heuristic).filter IsOpening = [] := by
  cases applies with
  | false => rfl
  | true => simp [annotationLines, not_isOpening_tag, not_isOpening_rationale]

end Evaluation

namespace Formula

open Evaluation

/-- The formula and all its parts in the order of reading, each with the number of connectives above
it. -/
def outline (depth : Nat) : Formula → List (Nat × Formula)
  | atom name => [(depth, atom name)]
  | not inner => (depth, not inner) :: inner.outline (depth + 1)
  | and left right =>
    (depth, and left right) :: (left.outline (depth + 1) ++ right.outline (depth + 1))
  | or left right =>
    (depth, or left right) :: (left.outline (depth + 1) ++ right.outline (depth + 1))
  | implies antecedent consequent =>
    (depth, implies antecedent consequent) ::
      (antecedent.outline (depth + 1) ++ consequent.outline (depth + 1))

/-- The names of the atoms from left to right, each with the number of connectives above it. -/
def placedNames (depth : Nat) : Formula → List (Nat × String)
  | atom name => [(depth, name)]
  | not inner => inner.placedNames (depth + 1)
  | and left right | or left right | implies left right =>
    left.placedNames (depth + 1) ++ right.placedNames (depth + 1)

/-- The line that tells the value of a formula by the values of its operands. -/
def openingLine (object : Object) : Formula → String
  | atom name => factLine object name
  | not inner => negationLine (inner.evaluate object).value
  | and left right =>
    binaryLine .and (left.evaluate object).value (right.evaluate object).value
      ((and left right).evaluate object).value
  | or left right =>
    binaryLine .or (left.evaluate object).value (right.evaluate object).value
      ((or left right).evaluate object).value
  | implies antecedent consequent =>
    let classical :=
      !(antecedent.evaluate object).value || (consequent.evaluate object).value
    let opposite :=
      !(antecedent.evaluate object).value || !(consequent.evaluate object).value
    conditionsLine (antecedent.implication consequent) classical (classical && opposite)
      ((implies antecedent consequent).evaluate object).value

variable {object : Object} {formula left right : Formula}

theorem outline_succ (depth : Nat) (formula : Formula) :
    formula.outline (depth + 1) =
      (formula.outline depth).map fun entry => (entry.1 + 1, entry.2) := by
  induction formula generalizing depth with
  | atom name => rfl
  | not inner innerIH => rw [outline, outline, List.map_cons, innerIH]
  | and left right leftIH rightIH | or left right leftIH rightIH
  | implies left right leftIH rightIH =>
      rw [outline, outline, List.map_cons, List.map_append, leftIH, rightIH]

theorem outline_parts (depth : Nat) (formula : Formula) :
    (formula.outline depth).map Prod.snd = formula.parts := by
  induction formula generalizing depth with
  | atom name => rfl
  | not inner innerIH => rw [outline, List.map_cons, innerIH, parts]
  | and left right leftIH rightIH | or left right leftIH rightIH
  | implies left right leftIH rightIH =>
      rw [outline, List.map_cons, List.map_append, leftIH, rightIH, parts]

theorem placedNames_names (depth : Nat) (formula : Formula) :
    (formula.placedNames depth).map Prod.snd = formula.names := by
  induction formula generalizing depth with
  | atom name => rfl
  | not inner innerIH => exact innerIH (depth + 1)
  | and left right leftIH rightIH | or left right leftIH rightIH
  | implies left right leftIH rightIH =>
      rw [placedNames, List.map_append, leftIH, rightIH, names]

theorem isOpening_openingLine (object : Object) (formula : Formula) :
    IsOpening (formula.openingLine object) := by
  cases formula with
  | atom name => exact isOpening_of_isFact (isFact_factLine object name)
  | not inner => exact isOpening_negationLine _
  | and left right | or left right => exact isOpening_binaryLine _ _ _ _
  | implies antecedent consequent => exact isOpening_conditionsLine _ _ _ _

/-- The opening lines of a formula and its parts, as they stand in its derivation. -/
def openingLines (object : Object) (formula : Formula) : List String :=
  (formula.outline 0).map fun entry => atDepth entry.1 (entry.2.openingLine object)

theorem outline_indented (object : Object) (formula : Formula) :
    ((formula.outline 1).map fun entry => atDepth entry.1 (entry.2.openingLine object)) =
      (formula.openingLines object).map indent := by
  rw [outline_succ, openingLines, List.map_map, List.map_map]
  simp only [Function.comp_def, indent_atDepth]

theorem openingLines_not (object : Object) (inner : Formula) :
    (not inner).openingLines object =
      (not inner).openingLine object :: (inner.openingLines object).map indent := by
  rw [openingLines, outline, List.map_cons, atDepth_zero, outline_indented]

theorem openingLines_of_operands (object : Object)
    (operands : formula.outline 0 = (0, formula) :: (left.outline 1 ++ right.outline 1)) :
    formula.openingLines object =
      formula.openingLine object ::
        ((left.openingLines object).map indent ++ (right.openingLines object).map indent) := by
  rw [openingLines, operands, List.map_cons, atDepth_zero, List.map_append, outline_indented,
    outline_indented]

/-- The derivation of an implication begins with its opening line, and the line behind that one is no
part's. -/
theorem derivation_implies (object : Object) (antecedent consequent : Formula) :
    ∃ classical diverges violation,
      ((implies antecedent consequent).evaluate object).derivation =
        (implies antecedent consequent).openingLine object ::
          classicalLine classical diverges ::
            (nested "Antecedent Derivation" (antecedent.evaluate object) ++
              (nested "Consequent Derivation" (consequent.evaluate object) ++
                implicationNotes (antecedent.implication consequent) violation)) := by
  have lines := implication_derivation (antecedent.implication consequent)
    (antecedent.evaluate object) (consequent.evaluate object)
  have value := implication_value (antecedent.implication consequent)
    (antecedent.evaluate object) (consequent.evaluate object)
  dsimp only at lines value
  rw [← value] at lines
  exact ⟨_, _, _, lines⟩

theorem head?_derivation (object : Object) (formula : Formula) :
    (formula.evaluate object).derivation.head? = some (formula.openingLine object) := by
  cases formula with
  | atom name => rw [evaluate, ofFact_derivation, List.head?_cons, openingLine]
  | not inner => rw [evaluate, negation_derivation, List.head?_cons, openingLine]
  | and left right | or left right => rfl
  | implies antecedent consequent =>
      obtain ⟨_, _, _, lines⟩ := derivation_implies object antecedent consequent
      rw [lines, List.head?_cons]

theorem filter_derivation (object : Object) (formula : Formula) :
    (formula.evaluate object).derivation.filter IsOpening = formula.openingLines object := by
  have opens (formula : Formula) (lines : List String) :
      (formula.openingLine object :: lines).filter IsOpening =
        formula.openingLine object :: lines.filter IsOpening :=
    List.filter_cons_of_pos (by simpa using isOpening_openingLine object formula)
  induction formula with
  | atom name =>
      have lines : ((atom name).evaluate object).derivation =
          (atom name).openingLine object ::
            annotationLines (object.stated? name).isNone .closedWorld := ofFact_derivation object name
      rw [lines, opens, filter_annotationLines, openingLines, outline, List.map_singleton,
        atDepth_zero]
  | not inner innerIH =>
      have lines : ((not inner).evaluate object).derivation =
          (not inner).openingLine object :: nested "Inner Derivation" (inner.evaluate object) := rfl
      rw [lines, opens, filter_nested, innerIH, openingLines_not]
  | and left right leftIH rightIH | or left right leftIH rightIH =>
      rw [openingLines_of_operands object rfl, ← leftIH, ← rightIH,
        ← filter_nested "Left Derivation", ← filter_nested "Right Derivation", ← List.filter_append,
        ← opens]
      rfl
  | implies antecedent consequent antecedentIH consequentIH =>
      obtain ⟨classical, diverges, violation, lines⟩ :=
        derivation_implies object antecedent consequent
      have outlined : (implies antecedent consequent).openingLines object = _ :=
        openingLines_of_operands object rfl
      have notes : (implicationNotes (antecedent.implication consequent) violation).filter
          IsOpening = [] := by
        simp only [implicationNotes, List.filter_append, filter_annotationLines, List.append_nil]
      rw [lines, opens, List.filter_cons_of_neg (by simpa using not_isOpening_classicalLine _ _),
        List.filter_append, List.filter_append, filter_nested, filter_nested, antecedentIH,
        consequentIH, notes, List.append_nil, outlined]

theorem isFact_openingLine_iff :
    IsFact (formula.openingLine object) ↔ ∃ name, formula = atom name := by
  cases formula with
  | atom name => exact iff_of_true (isFact_factLine object name) ⟨name, rfl⟩
  | not inner =>
      exact iff_of_false (fun fact => IsFact.not_plain fact (plain_negationLine _)) (by simp)
  | and left right | or left right =>
      exact iff_of_false (fun fact => IsFact.not_plain fact (plain_binaryLine _ _ _ _)) (by simp)
  | implies antecedent consequent =>
      exact iff_of_false (fun fact => IsFact.not_plain fact (plain_conditionsLine _ _ _ _)) (by simp)

/-- Among the opening lines, the facts are those of the atoms. -/
theorem filter_outline (object : Object) (depth : Nat) (formula : Formula) :
    ((formula.outline depth).map fun entry =>
        atDepth entry.1 (entry.2.openingLine object)).filter IsFact =
      (formula.placedNames depth).map fun entry => atDepth entry.1 (factLine object entry.2) := by
  induction formula generalizing depth with
  | atom name => simp [outline, placedNames, openingLine, isFact_atDepth, isFact_factLine]
  | not inner innerIH =>
      simp [outline, placedNames, isFact_atDepth, isFact_openingLine_iff, innerIH]
  | and left right leftIH rightIH | or left right leftIH rightIH
  | implies left right leftIH rightIH =>
      simp [outline, placedNames, isFact_atDepth, isFact_openingLine_iff, leftIH, rightIH]

theorem filter_isFact_derivation (object : Object) (formula : Formula) :
    (formula.evaluate object).derivation.filter IsFact =
      (formula.placedNames 0).map fun entry => atDepth entry.1 (factLine object entry.2) := by
  rw [← filter_outline, ← openingLines, ← filter_derivation, List.filter_filter]
  apply List.filter_congr
  intro line _
  simpa using isOpening_of_isFact

/-- Every part of a formula is visited once, in the order of reading. -/
theorem derivation_visits (object : Object) (formula : Formula) :
    let derivation := (formula.evaluate object).derivation
    derivation.filter IsFact =
        (formula.placedNames 0).map (fun entry =>
          String.ofList (List.replicate (4 * entry.1) ' ') ++
            ("Fact '" ++ entry.2 ++ "' is " ++
              Text.verdictWord ((object.stated? entry.2).getD false) ++
              " for object '" ++ object.name ++ "'")) ∧
      (formula.placedNames 0).map Prod.snd = formula.names ∧
      derivation.filter IsOpening =
        (formula.outline 0).map (fun entry =>
          String.ofList (List.replicate (4 * entry.1) ' ') ++ entry.2.openingLine object) ∧
      (formula.outline 0).map Prod.snd = formula.parts ∧
      ∀ part : Formula, (part.evaluate object).derivation.head? = some (part.openingLine object) :=
  ⟨filter_isFact_derivation object formula, placedNames_names 0 formula,
    filter_derivation object formula, outline_parts 0 formula, head?_derivation object⟩

end Formula

end Connexive
