import Connexive.Proofs.Formula.Conservation

namespace Connexive

/-! What the kind of a refusal tells about the list. A refusal for a missing operand may hide any
other fault. Otherwise the kind follows from the numbers of operands, of keywords of two operands
and of parentheses alone, because what is left at the end is accounted for by them.
-/

variable {tokens : List String} {cause : ParseCause} {formula : Formula}

def operandCount (tokens : List String) : Nat :=
  (operandsOf tokens).length

/-- How many keywords take two operands. -/
def binaryCount (tokens : List String) : Nat :=
  (keywordsOf tokens).countP (· ≠ .not)

namespace ParseState

variable {state : ParseState} {operands : List Formula} {pending : List Pending}
  {bound : Nat} {token : String}

theorem reduce_error (failed : reduce bound operands pending = .error cause) :
    ∃ op, cause = .missingOperand op := by
  induction pending generalizing operands with
  | nil => contradiction
  | cons top pending pendingIH =>
      cases top with
      | paren => contradiction
      | connective op =>
          rw [reduce] at failed
          split at failed
          · cases applied : combine op operands with
            | ok combined =>
                rw [applied] at failed
                exact pendingIH failed
            | error missing =>
                rw [applied] at failed
                cases failed
                unfold combine at applied
                split at applied <;> cases applied
                exact ⟨op, rfl⟩
          · contradiction

theorem step_error (failed : state.step token = .error cause) :
    (∃ op, cause = .missingOperand op) ∨
      token = ")" ∧ cause = .unmatchedClosing ∧
        ∃ operands, reduce 0 state.operands state.pending = .ok ⟨operands, []⟩ := by
  have written := Token.ofText_written token
  unfold step at failed
  generalize Token.ofText token = kind at failed written
  cases written with
  | operand _ => contradiction
  | opening => contradiction
  | closing =>
      simp only [closeGroup, reduceGroup] at failed
      cases reduced : reduce 0 state.operands state.pending with
      | error missing =>
          rw [reduced] at failed
          cases failed
          exact .inl (reduce_error reduced)
      | ok settled =>
          obtain ⟨operands, pending⟩ := settled
          rw [reduced] at failed
          rcases reduce_zero_pending reduced with rfl | ⟨rest, rfl⟩
          · cases failed
            exact .inr ⟨rfl, rfl, operands, rfl⟩
          · contradiction
  | @connective op _ keyword =>
      simp only at failed
      cases reduced : reduce op.precedence state.operands state.pending with
      | error missing =>
          rw [reduced] at failed
          cases failed
          exact .inl (reduce_error reduced)
      | ok settled =>
          rw [reduced] at failed
          contradiction

/-- A run that fails goes well up to the token at which it fails. -/
theorem steps_error (failed : state.steps tokens = .error cause) :
    ∃ before token after reached, tokens = before ++ token :: after ∧
      state.steps before = .ok reached ∧ reached.step token = .error cause := by
  induction tokens generalizing state with
  | nil => contradiction
  | cons token rest restIH =>
      rw [steps] at failed
      cases stepped : state.step token with
      | error missing =>
          rw [stepped] at failed
          cases failed
          exact ⟨[], token, rest, state, rfl, rfl, stepped⟩
      | ok next =>
          rw [stepped] at failed
          obtain ⟨before, last, after, reached, rfl, walked, refused⟩ := restIH failed
          refine ⟨token :: before, last, after, reached, rfl, ?_, refused⟩
          rw [steps, stepped]
          exact walked

theorem finish_error (failed : state.finish = .error cause) :
    (∃ op, cause = .missingOperand op) ∨
      (cause = .unclosedOpening ∧ ∃ operands pending,
        reduce 0 state.operands state.pending = .ok ⟨operands, .paren :: pending⟩) ∨
      (cause = .notOneFormula ∧ ∃ operands,
        reduce 0 state.operands state.pending = .ok ⟨operands, []⟩ ∧ operands.length ≠ 1) := by
  unfold finish settle reduceGroup at failed
  cases reduced : reduce 0 state.operands state.pending with
  | error missing =>
      rw [reduced] at failed
      cases failed
      exact .inl (reduce_error reduced)
  | ok settled =>
      obtain ⟨operands, pending⟩ := settled
      rw [reduced] at failed
      rcases reduce_zero_pending reduced with rfl | ⟨rest, rfl⟩
      · match operands with
        | [] | _ :: _ :: _ =>
            cases failed
            exact .inr (.inr ⟨rfl, _, rfl, by simp⟩)
        | [only] => contradiction
      · cases failed
        exact .inr (.inl ⟨rfl, operands, rest, rfl⟩)

end ParseState

open ParseState

/-- What each cause of a refusal says about the list. -/
inductive Refused (tokens : List String) : ParseCause → Prop
  | empty (nothing : tokens = []) : Refused tokens .empty
  | unmatchedClosing {before after : List String} (split : tokens = before ++ ")" :: after)
      (closed : before.count ")" = before.count "(") : Refused tokens .unmatchedClosing
  | unclosedOpening (unclosed : tokens.count ")" < tokens.count "(") :
      Refused tokens .unclosedOpening
  | missingOperand (op : Connective) : Refused tokens (.missingOperand op)
  | notOneFormula {operands : List Formula} (nonempty : tokens ≠ [])
      (settled : Settled operands tokens) (notOne : operands.length ≠ 1) :
      Refused tokens .notOneFormula

theorem Refused.of_read (refused : Formula.read tokens = .error cause) : Refused tokens cause := by
  by_cases nonempty : tokens = []
  · subst nonempty
    cases refused
    exact .empty rfl
  · rw [Formula.read_of_ne_nil nonempty] at refused
    cases walked : start.steps tokens with
    | error missing =>
        rw [walked] at refused
        cases refused
        obtain ⟨before, token, after, reached, rfl, read, failed⟩ := steps_error walked
        rcases step_error failed with ⟨op, rfl⟩ | ⟨rfl, rfl, operands, reduced⟩
        · exact .missingOperand op
        · have settled := Settled.of_steps read reduced
          exact .unmatchedClosing rfl settled.balanced.closed
    | ok state =>
        rw [walked] at refused
        rcases finish_error refused with
          ⟨op, rfl⟩ | ⟨rfl, operands, pending, reduced⟩ | ⟨rfl, operands, reduced, notOne⟩
        · exact .missingOperand op
        · have waiting := reduce_parens reduced
          have parens := steps_parens walked
          refine .unclosedOpening ?_
          simp at waiting
          omega
        · exact .notOneFormula nonempty (.of_steps walked reduced) notOne

/-- The operands that are left when all keywords are applied, by number. -/
theorem ParseState.Settled.operandCount_eq {operands : List Formula}
    (settled : Settled operands tokens) :
    operandCount tokens = binaryCount tokens + operands.length := by
  rw [operandCount, ← settled.names, length_namesOf, binaryCount, settled.connectives.countP_eq]

theorem ParseState.Settled.only_parens (settled : Settled [] tokens) :
    ∀ token ∈ tokens, token = "(" ∨ token = ")" := by
  have noOperand : operandsOf tokens = [] := settled.names.symm
  have noKeyword : keywordsOf tokens = [] := settled.connectives.nil_eq.symm
  intro token member
  have written := Token.ofText_written token
  generalize Token.ofText token = kind at written
  cases written with
  | opening => exact .inl rfl
  | closing => exact .inr rfl
  | operand isOperand =>
      have found := mem_operandsOf_iff.mpr ⟨member, isOperand⟩
      rw [noOperand] at found
      contradiction
  | connective keyword =>
      have found := List.mem_filterMap.mpr
        ⟨token, member, Connective.ofToken?_eq_some_iff.mpr keyword⟩
      rw [← keywordsOf, noKeyword] at found
      contradiction

/-- The list is refused, with a cause of this kind, and the refusal carries it. -/
def FailsWith (tokens : List String) (kind : ParseKind) : Prop :=
  ∃ error, Formula.parse tokens = .error error ∧ error.cause.kind = kind ∧ error.tokens = tokens

theorem failsWith_iff {kind : ParseKind} :
    FailsWith tokens kind ↔ ∃ cause, Formula.read tokens = .error cause ∧ cause.kind = kind := by
  constructor
  · rintro ⟨error, parsed, ofKind, _⟩
    exact ⟨error.cause, (Formula.parse_error_iff.mp parsed).1, ofKind⟩
  · rintro ⟨cause, read, ofKind⟩
    exact ⟨⟨cause, tokens⟩, Formula.parse_error_iff.mpr ⟨read, rfl⟩, ofKind, rfl⟩

namespace FailsWith

theorem of_read (read : Formula.read tokens = .error cause) : FailsWith tokens cause.kind :=
  failsWith_iff.mpr ⟨cause, read, rfl⟩

theorem refused {kind : ParseKind} (fails : FailsWith tokens kind) :
    ∃ cause, cause.kind = kind ∧ Refused tokens cause := by
  obtain ⟨cause, read, ofKind⟩ := failsWith_iff.mp fails
  exact ⟨cause, ofKind, .of_read read⟩

theorem empty_iff : FailsWith tokens .emptyExpression ↔ tokens = [] := by
  constructor
  · intro fails
    obtain ⟨cause, ofKind, refused⟩ := fails.refused
    cases refused with
    | empty nothing => exact nothing
    | _ => contradiction
  · rintro rfl
    exact failsWith_iff.mpr ⟨.empty, rfl, rfl⟩

theorem not_balanced (fails : FailsWith tokens .mismatchedParentheses) : ¬ Balanced tokens := by
  intro balanced
  obtain ⟨cause, ofKind, refused⟩ := fails.refused
  cases refused with
  | @unmatchedClosing before after split closed =>
      -- With the parenthesis at hand, more groups are closed than opened.
      have opened := balanced.opened (before ++ [")"]) ⟨after, by simpa using split.symm⟩
      simp at opened
      omega
  | unclosedOpening unclosed =>
      have closed := balanced.closed
      omega
  | _ => contradiction

theorem of_not_balanced (unbalanced : ¬ Balanced tokens) :
    FailsWith tokens .mismatchedParentheses ∨ FailsWith tokens .insufficientOperands := by
  cases read : Formula.read tokens with
  | ok formula => exact absurd (Formula.settled_of_read read).balanced unbalanced
  | error cause =>
      have fails := of_read read
      cases Refused.of_read read with
      | empty nothing =>
          subst nothing
          exact absurd ⟨by simp, rfl⟩ unbalanced
      | unmatchedClosing _ _ => exact .inl fails
      | unclosedOpening _ => exact .inl fails
      | missingOperand op => exact .inr fails
      | notOneFormula _ settled _ => exact absurd settled.balanced unbalanced

theorem left_over (fails : FailsWith tokens .invalidSyntax) :
    tokens ≠ [] ∧ Balanced tokens ∧
      ((∀ token ∈ tokens, token = "(" ∨ token = ")") ∨
        binaryCount tokens + 2 ≤ operandCount tokens) := by
  obtain ⟨cause, ofKind, refused⟩ := fails.refused
  cases refused with
  | @notOneFormula operands nonempty settled notOne =>
      refine ⟨nonempty, settled.balanced, ?_⟩
      have counts := settled.operandCount_eq
      match operands with
      | [] => exact .inl settled.only_parens
      | [only] => contradiction
      | _ :: _ :: rest =>
          rw [List.length_cons, List.length_cons] at counts
          exact .inr (by omega)
  | _ => contradiction

theorem of_few_operands (balanced : Balanced tokens) (spoken : keywordsOf tokens ≠ [])
    (few : operandCount tokens ≤ binaryCount tokens) : FailsWith tokens .insufficientOperands := by
  cases read : Formula.read tokens with
  | ok formula =>
      have counts := (Formula.settled_of_read read).operandCount_eq
      rw [List.length_singleton] at counts
      omega
  | error cause =>
      have fails := of_read read
      cases Refused.of_read read with
      | empty nothing =>
          subst nothing
          contradiction
      | unmatchedClosing _ _ => exact absurd balanced fails.not_balanced
      | unclosedOpening _ => exact absurd balanced fails.not_balanced
      | missingOperand op => exact fails
      | @notOneFormula operands _ settled _ =>
          -- A keyword leaves the operand it makes, so at least one operand is there.
          have counts := settled.operandCount_eq
          have noOperand : operands = [] := List.eq_nil_of_length_eq_zero (by omega)
          subst noOperand
          exact absurd settled.connectives.nil_eq.symm spoken

end FailsWith

theorem counts_of_parse (parsed : Formula.parse tokens = .ok formula) :
    Balanced tokens ∧ operandCount tokens = binaryCount tokens + 1 := by
  have settled := Formula.settled_of_read (Formula.parse_iff.mp parsed)
  exact ⟨settled.balanced, settled.operandCount_eq⟩

/-- What each kind of refusal says about the list, and which lists are sure to be refused with a
kind. Every refusal carries the whole list. -/
theorem failsWith_kinds (tokens : List String) :
    (FailsWith tokens .emptyExpression ↔ tokens = []) ∧
      (FailsWith tokens .mismatchedParentheses → ¬ Balanced tokens) ∧
      (¬ Balanced tokens →
        FailsWith tokens .mismatchedParentheses ∨ FailsWith tokens .insufficientOperands) ∧
      (FailsWith tokens .invalidSyntax →
        tokens ≠ [] ∧ Balanced tokens ∧
          ((∀ token ∈ tokens, token = "(" ∨ token = ")") ∨
            binaryCount tokens + 2 ≤ operandCount tokens)) ∧
      (∀ formula, Formula.parse tokens = .ok formula →
        Balanced tokens ∧ operandCount tokens = binaryCount tokens + 1) ∧
      (Balanced tokens → keywordsOf tokens ≠ [] → operandCount tokens ≤ binaryCount tokens →
        FailsWith tokens .insufficientOperands) ∧
      ∀ error, Formula.parse tokens = .error error → error.tokens = tokens :=
  ⟨FailsWith.empty_iff, FailsWith.not_balanced, FailsWith.of_not_balanced, FailsWith.left_over,
    fun _ => counts_of_parse, FailsWith.of_few_operands,
    fun _ parsed => (Formula.parse_error_iff.mp parsed).2⟩

/-- An open group with an operand missing, two formulas side by side, and a connective before its
only operand. -/
theorem failsWith_kinds_at_faults :
    (¬ Balanced ["(", "a", "and"] ∧
      (FailsWith ["(", "a", "and"] .mismatchedParentheses ∨
        FailsWith ["(", "a", "and"] .insufficientOperands)) ∧
    (FailsWith ["a", "(", "b", ")"] .invalidSyntax ∧
      binaryCount ["a", "(", "b", ")"] + 2 ≤ operandCount ["a", "(", "b", ")"]) ∧
    (Balanced ["or", "(", "a", ")"] ∧ keywordsOf ["or", "(", "a", ")"] ≠ [] ∧
      FailsWith ["or", "(", "a", ")"] .insufficientOperands) := by
  have unbalanced : ¬ Balanced ["(", "a", "and"] := by decide
  have twoFormulas : FailsWith ["a", "(", "b", ")"] .invalidSyntax := ⟨_, rfl, rfl, rfl⟩
  have balanced : Balanced ["or", "(", "a", ")"] := by decide
  have spoken : keywordsOf ["or", "(", "a", ")"] ≠ [] := by decide
  have few : operandCount ["or", "(", "a", ")"] ≤ binaryCount ["or", "(", "a", ")"] := by decide
  obtain ⟨_, _, unbalancedFails, _⟩ := failsWith_kinds ["(", "a", "and"]
  obtain ⟨_, _, _, leftOver, _⟩ := failsWith_kinds ["a", "(", "b", ")"]
  obtain ⟨_, _, _, _, _, fewFail, _⟩ := failsWith_kinds ["or", "(", "a", ")"]
  have parens : ¬ ∀ token ∈ ["a", "(", "b", ")"], token = "(" ∨ token = ")" := by decide
  exact ⟨⟨unbalanced, unbalancedFails unbalanced⟩,
    ⟨twoFormulas, (leftOver twoFormulas).2.2.resolve_left parens⟩,
    ⟨balanced, spoken, fewFail balanced spoken few⟩⟩

end Connexive
