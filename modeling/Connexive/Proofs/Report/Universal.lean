import Connexive.Proofs.Domain.Universal
import Connexive.Proofs.Report.Result
import Connexive.Proofs.Text.Lines

namespace Connexive.Report

/-! What can be read off the report on a universal claim. As in the report on a query, the first two
letters of a line tell its kind, whatever names stand in the lines.
-/

def universalLine (value : Bool) : String :=
  "Result for ALL objects: " ++ Text.verdictWord value

def failureOpening : List Char := "Fails for: ".toList

def failureLine (names : List String) : String :=
  "Fails for: " ++ ", ".intercalate names

/-- The lines of a report that name the objects of which the claim fails. -/
def failureLines (lines : List String) : List String :=
  lines.filter (OpensWith failureOpening ·)

variable {line text : String} {value : Bool} {domain : Domain} {formula : Formula}

theorem universalLine_opens (value : Bool) : OpensWith ['R', 'e'] (universalLine value) :=
  (opensWith_ofList ['R', 'e'] _).append _

theorem universalLine_inj {other : Bool} (same : universalLine value = universalLine other) :
    value = other := by
  have sameWord := (String.append_right_inj _).mp same
  cases value <;> cases other <;> simp [Text.verdictWord] at sameWord ⊢

theorem failureLine_opens (names : List String) : OpensWith failureOpening (failureLine names) := by
  rw [OpensWith, failureLine, String.toList_append]
  exact List.prefix_append _ _

theorem OpensWith.failure (opens : OpensWith failureOpening line) : OpensWith ['F', 'a'] line := by
  have letters : ['F', 'a'] <+: failureOpening := by decide
  exact letters.trans opens

theorem expressionLine_opens (text : String) : OpensWith ['E', 'x'] ("Expression: " ++ text) :=
  (opensWith_ofList ['E', 'x'] _).append _

/-- The reason of a verdict, as the report shows it: two lines for the empty domain, else none. -/
def reasonLines (domain : Domain) : List String :=
  if domain.objects.isEmpty then
    [Heuristic.vacuousTruthRejection.tag, Heuristic.vacuousTruthRejection.rationale]
  else []

theorem vacuous_noBreak :
    Text.NoBreak Heuristic.vacuousTruthRejection.tag.toList ∧
      Text.NoBreak Heuristic.vacuousTruthRejection.rationale.toList := by
  constructor
  · decide
  · unfold Heuristic.rationale
    dsimp only
    rw [String.toList_append, Text.noBreak_append_iff]
    exact ⟨by decide +kernel, by decide +kernel⟩

theorem lines_reason_forAll (domain : Domain) (formula : Formula) :
    Text.lines ((domain.forAll formula).reason.getD "") = reasonLines domain := by
  obtain ⟨objects⟩ := domain
  cases objects with
  | nil =>
      obtain ⟨tag, rationale⟩ := vacuous_noBreak
      have nonempty : Heuristic.vacuousTruthRejection.rationale.toList ≠ [] := by
        rcases rationale_opens .vacuousTruthRejection with opens | opens
        all_goals exact List.ne_nil_of_length_pos (Nat.lt_of_lt_of_le (by decide) opens.length_le)
      have lines := Text.lines_append_feed tag Heuristic.vacuousTruthRejection.rationale
      rw [Text.lines_of_noBreak rationale nonempty] at lines
      exact lines
  | cons object rest => rfl

theorem opening_of_mem_reasonLines {letters : List Char} (member : line ∈ reasonLines domain)
    (opens : OpensWith letters line) (twoLetters : letters.length = 2) :
    letters = ['[', 'H'] ∨ letters = ['T', 'h'] ∨ letters = ['I', 'm'] := by
  unfold reasonLines at member
  split at member
  · rcases List.mem_cons.mp member with rfl | second
    · exact .inl (opens.unique (tag_opens _) twoLetters)
    · cases List.mem_singleton.mp second
      rcases rationale_opens .vacuousTruthRejection with the | implication
      · exact .inr (.inl (opens.unique the twoLetters))
      · exact .inr (.inr (opens.unique implication twoLetters))
  · contradiction

theorem forAll_lines (text : String) (domain : Domain) (formula : Formula) :
    forAll text (domain.forAll formula) =
      ["Expression: " ++ text, universalLine (domain.forAll formula).value] ++
      (if (domain.forAll formula).failing.isEmpty then []
        else [failureLine (domain.forAll formula).failing]) ++
      reasonLines domain := by
  rw [forAll, lines_reason_forAll]
  rfl

/-- The report shows the value of the claim, and no other line looks like it. -/
theorem universalLine_mem_forAll :
    universalLine value ∈ forAll text (domain.forAll formula) ↔
      (domain.forAll formula).value = value := by
  have opens := universalLine_opens value
  have notExpression : universalLine value ≠ "Expression: " ++ text :=
    opens.ne (expressionLine_opens text) rfl (by decide)
  have notFailure (names : List String) : universalLine value ≠ failureLine names :=
    opens.ne (failureLine_opens names).failure rfl (by decide)
  have notReason : universalLine value ∉ reasonLines domain :=
    fun member => absurd (opening_of_mem_reasonLines member opens rfl) (by decide)
  have notNamed (names : List String) : universalLine value ∉
      (if names.isEmpty then [] else [failureLine names]) := by
    split
    · simp
    · simpa using notFailure names
  rw [forAll_lines]
  simp only [List.mem_append, List.mem_cons, List.not_mem_nil, or_false, notExpression, notNamed,
    notReason, false_or]
  exact ⟨fun same => (universalLine_inj same).symm, fun same => same ▸ rfl⟩

/-- The report names the objects of which the claim fails in one line, if there are any. -/
theorem failureLines_forAll (text : String) (domain : Domain) (formula : Formula) :
    failureLines (forAll text (domain.forAll formula)) =
      if (domain.forAll formula).failing = [] then []
      else [failureLine (domain.forAll formula).failing] := by
  have notExpression : ¬ OpensWith failureOpening ("Expression: " ++ text) :=
    fun opens => absurd opens.failure ((expressionLine_opens text).differs rfl (by decide))
  have notResult : ¬ OpensWith failureOpening (universalLine (domain.forAll formula).value) :=
    fun opens => absurd opens.failure ((universalLine_opens _).differs rfl (by decide))
  have notReason : (reasonLines domain).filter (OpensWith failureOpening ·) = [] := by
    apply List.filter_eq_nil_iff.mpr
    intro line member opening
    have opens := (of_decide_eq_true opening : OpensWith failureOpening line).failure
    exact absurd (opening_of_mem_reasonLines member opens rfl) (by decide)
  rw [forAll_lines, failureLines, List.filter_append, List.filter_append, notReason]
  simp only [List.filter_cons, List.filter_nil, notExpression, notResult, decide_false,
    Bool.false_eq_true, if_false, List.nil_append, List.append_nil]
  cases failing : (domain.forAll formula).failing with
  | nil => rfl
  | cons name rest => simp [failureLine_opens]

end Connexive.Report
