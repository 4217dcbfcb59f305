import Connexive.Proofs.Draft.OfFormula

namespace Connexive.Draft

/-! Drafts in which plain data stands. To render a draft, to collect its topics and to evaluate it
all go through every part from left to right, also where a value is settled early. So they fail
together, at the leftmost data. Asked to evaluate itself, data at the top fails in a way of its own,
and a domain without objects asks nothing.
-/

/-- The plain data in a draft, from left to right. -/
def data : Draft → List Value
  | atom _ => []
  | not inner => inner.data
  | and left right => left.data ++ right.data
  | or left right => left.data ++ right.data
  | implies antecedent consequent => antecedent.data ++ consequent.data
  | foreign value => [value]

/-- A failure at the leftmost data, and an answer where there is none. -/
def FailsAtData {α : Type} (draft : Draft) (outcome : Except DraftFault α) : Prop :=
  match draft.data with
  | [] => ∃ answer, outcome = .ok answer
  | value :: _ => outcome = .error (.notAFormula value)

variable {α β : Type} {draft left right : Draft} {value : Value} {object : Object} {domain : Domain}
  {operation : Draft → Except DraftFault α}

theorem head?_data (draft : Draft) : draft.data.head? = draft.firstForeign? := by
  induction draft with
  | atom name => rfl
  | not inner innerIH => exact innerIH
  | and left right leftIH rightIH | or left right leftIH rightIH
  | implies left right leftIH rightIH =>
      rw [data, List.head?_append, leftIH, rightIH, firstForeign?]
  | foreign value => rfl

@[simp] theorem data_ofFormula (formula : Formula) : (ofFormula formula).data = [] := by
  induction formula with
  | atom name => rfl
  | not inner innerIH => exact innerIH
  | and left right leftIH rightIH | or left right leftIH rightIH
  | implies left right leftIH rightIH =>
      rw [ofFormula, data, leftIH, rightIH, List.append_nil]

theorem formulas_of_parts (leftIH : left.data = [] → ∃ formula, left = ofFormula formula)
    (rightIH : right.data = [] → ∃ formula, right = ofFormula formula)
    (pure : left.data ++ right.data = []) :
    ∃ first second, left = ofFormula first ∧ right = ofFormula second := by
  obtain ⟨leftPure, rightPure⟩ := List.append_eq_nil_iff.mp pure
  obtain ⟨first, ofLeft⟩ := leftIH leftPure
  obtain ⟨second, ofRight⟩ := rightIH rightPure
  exact ⟨first, second, ofLeft, ofRight⟩

theorem exists_formula (pure : draft.data = []) : ∃ formula, draft = ofFormula formula := by
  induction draft with
  | atom name => exact ⟨.atom name, rfl⟩
  | not inner innerIH =>
      obtain ⟨formula, rfl⟩ := innerIH pure
      exact ⟨.not formula, rfl⟩
  | and left right leftIH rightIH =>
      obtain ⟨first, second, rfl, rfl⟩ := formulas_of_parts leftIH rightIH pure
      exact ⟨.and first second, rfl⟩
  | or left right leftIH rightIH =>
      obtain ⟨first, second, rfl, rfl⟩ := formulas_of_parts leftIH rightIH pure
      exact ⟨.or first second, rfl⟩
  | implies left right leftIH rightIH =>
      obtain ⟨first, second, rfl, rfl⟩ := formulas_of_parts leftIH rightIH pure
      exact ⟨.implies first second, rfl⟩
  | foreign value => contradiction

/-- A draft without data is a formula. -/
theorem data_eq_nil_iff : draft.data = [] ↔ ∃ formula, draft = ofFormula formula := by
  refine ⟨exists_formula, ?_⟩
  rintro ⟨formula, rfl⟩
  exact data_ofFormula formula

theorem firstForeign?_eq_none_iff :
    draft.firstForeign? = none ↔ ∃ formula, draft = ofFormula formula := by
  rw [← head?_data, List.head?_eq_none_iff, data_eq_nil_iff]

/-- The parts are gone through in order, and the right one only where the left one is a formula. -/
theorem error_of_parts
    (answers : ∀ formula, ∃ answer, operation (ofFormula formula) = .ok answer)
    (leftIH : left.firstForeign? = some value → operation left = .error (.notAFormula value))
    (rightIH : right.firstForeign? = some value → operation right = .error (.notAFormula value))
    (found : left.firstForeign?.or right.firstForeign? = some value)
    (join : α → α → Except DraftFault β) :
    (do join (← operation left) (← operation right)) = .error (.notAFormula value) := by
  cases leftFound : left.firstForeign? with
  | some first =>
      rw [leftFound, Option.some_or] at found
      rw [leftIH (leftFound.trans found)]
      rfl
  | none =>
      rw [leftFound, Option.none_or] at found
      obtain ⟨formula, rfl⟩ := firstForeign?_eq_none_iff.mp leftFound
      obtain ⟨answer, answered⟩ := answers formula
      rw [answered, rightIH found]
      rfl

theorem render_of_foreign (found : draft.firstForeign? = some value) :
    draft.render = .error (.notAFormula value) := by
  induction draft with
  | atom name => contradiction
  | not inner innerIH =>
      rw [render, innerIH found]
      rfl
  | and left right leftIH rightIH | or left right leftIH rightIH
  | implies left right leftIH rightIH =>
      exact error_of_parts (fun formula => ⟨_, render_ofFormula formula⟩) leftIH rightIH found _
  | foreign data =>
      cases found
      rfl

theorem topics_of_foreign (found : draft.firstForeign? = some value) :
    draft.topics = .error (.notAFormula value) := by
  induction draft with
  | atom name => contradiction
  | not inner innerIH => exact innerIH found
  | and left right leftIH rightIH | or left right leftIH rightIH
  | implies left right leftIH rightIH =>
      exact error_of_parts (fun formula => ⟨_, topics_ofFormula formula⟩) leftIH rightIH found _
  | foreign data =>
      cases found
      rfl

theorem evaluate_of_foreign (found : draft.firstForeign? = some value) :
    draft.evaluate object = .error (.notAFormula value) := by
  induction draft with
  | atom name => contradiction
  | not inner innerIH =>
      rw [evaluate, innerIH found]
      rfl
  | and left right leftIH rightIH | or left right leftIH rightIH
  | implies left right leftIH rightIH =>
      exact error_of_parts (fun formula => ⟨_, evaluate_ofFormula object formula⟩) leftIH rightIH
        found _
  | foreign data =>
      cases found
      rfl

theorem forAllDraft_of_foreign (occupied : domain.objects ≠ []) (below : draft.foreign? = none)
    (found : draft.firstForeign? = some value) :
    domain.forAllDraft draft = .error (.notAFormula value) := by
  obtain ⟨objects⟩ := domain
  cases objects with
  | nil => contradiction
  | cons object rest =>
      have refused : draft.evaluateSelf object = .error (.notAFormula value) := by
        rw [evaluateSelf, below]
        exact evaluate_of_foreign found
      have stopped : draft.failing (object :: rest) = .error (.notAFormula value) := by
        rw [failing, refused]
        rfl
      rw [Domain.forAllDraft, stopped]
      rfl

theorem forAllDraft_foreign (occupied : domain.objects ≠ []) (value : Value) :
    domain.forAllDraft (foreign value) = .error (.cannotEvaluate value) := by
  obtain ⟨objects⟩ := domain
  cases objects with
  | nil => contradiction
  | cons object rest => rfl

theorem failsAtData
    (answers : ∀ formula, ∃ answer, operation (ofFormula formula) = .ok answer)
    (fails : ∀ {value}, draft.firstForeign? = some value →
      operation draft = .error (.notAFormula value)) :
    FailsAtData draft (operation draft) := by
  have leftmost := head?_data draft
  rw [FailsAtData]
  cases found : draft.data with
  | nil =>
      obtain ⟨formula, rfl⟩ := exists_formula found
      exact answers formula
  | cons value rest =>
      rw [found, List.head?_cons] at leftmost
      exact fails leftmost.symm

/-- Rendering, topics and evaluation of a draft fail exactly if some data stands in it, and then all
with the one message that names the kind of the leftmost. A domain without objects answers for
every draft that the claim is vacuous. Any other one refuses data at the top for not evaluating
itself, and deals with the rest as an evaluation does. -/
theorem operations_fail_at_data (object : Object) (domain : Domain) (draft : Draft) :
    FailsAtData draft (draft.evaluate object) ∧
    FailsAtData draft draft.render ∧
    FailsAtData draft draft.topics ∧
    (domain.objects = [] → domain.forAllDraft draft = .ok .vacuous) ∧
    (domain.objects ≠ [] →
      match draft with
      | foreign value => domain.forAllDraft draft = .error (.cannotEvaluate value)
      | _ => FailsAtData draft (domain.forAllDraft draft)) ∧
    ∀ value : Value,
      (DraftFault.notAFormula value).message = "Not an expression node: " ++ value.kind := by
  refine ⟨?_, ?_, ?_, fun empty => ?_, fun occupied => ?_, fun value => rfl⟩
  · exact failsAtData (fun formula => ⟨_, evaluate_ofFormula object formula⟩) evaluate_of_foreign
  · exact failsAtData (fun formula => ⟨_, render_ofFormula formula⟩) render_of_foreign
  · exact failsAtData (fun formula => ⟨_, topics_ofFormula formula⟩) topics_of_foreign
  · rw [Domain.forAllDraft, empty]
    rfl
  · cases draft with
    | foreign value => exact forAllDraft_foreign occupied value
    | atom _ | not _ | and _ _ | or _ _ | implies _ _ =>
        exact failsAtData (fun formula => ⟨_, forAllDraft_ofFormula domain formula⟩)
          (forAllDraft_of_foreign occupied rfl)

/-- Data on both sides of an implication, deep below and where evaluation could stop early. -/
theorem operations_fail_at_data_left_of_more :
    let object : Object := ⟨"x", [("a", false)]⟩
    let deep : Draft :=
      .and (.atom "a") (.implies (.not (.foreign (.int 3))) (.foreign (.text "b")))
    let top : Draft := .foreign .null
    deep.evaluate object = .error (.notAFormula (.int 3)) ∧
      deep.render = .error (.notAFormula (.int 3)) ∧
      deep.topics = .error (.notAFormula (.int 3)) ∧
      Domain.empty.objects = [] ∧ Domain.empty.forAllDraft top = .ok .vacuous ∧
      (⟨[object]⟩ : Domain).objects ≠ [] ∧
      (⟨[object]⟩ : Domain).forAllDraft deep = .error (.notAFormula (.int 3)) ∧
      (⟨[object]⟩ : Domain).forAllDraft top = .error (.cannotEvaluate .null) := by
  intro object deep top
  have occupied : (⟨[object]⟩ : Domain).objects ≠ [] := List.cons_ne_nil _ _
  obtain ⟨evaluated, rendered, topics, _, deepRefused, _⟩ :=
    operations_fail_at_data object ⟨[object]⟩ deep
  obtain ⟨_, _, _, _, topRefused, _⟩ := operations_fail_at_data object ⟨[object]⟩ top
  obtain ⟨_, _, _, vacuous, _⟩ := operations_fail_at_data object .empty top
  exact ⟨evaluated, rendered, topics, rfl, vacuous rfl, occupied, deepRefused occupied,
    topRefused occupied⟩

end Connexive.Draft
