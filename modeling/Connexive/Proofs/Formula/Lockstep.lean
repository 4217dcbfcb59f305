import Connexive.Proofs.Formula.Stacks
import Mathlib.Data.List.Forall2

namespace Connexive

/-! Two readings side by side. What is applied when depends on the kinds of the tokens and never on
the operands, so two runs over tokens of the same kinds take every turn together. Of a relation
between their operands only two things are left to show: that every connective keeps it, and that
the operands pushed at the same time do.
-/

/-- Two outcomes that agree: related results, or refusals for one cause. -/
inductive Agree {α : Type} (related : α → α → Prop) :
    Except ParseCause α → Except ParseCause α → Prop
  | results {first second : α} (holds : related first second) :
      Agree related (.ok first) (.ok second)
  | refusals (cause : ParseCause) : Agree related (.error cause) (.error cause)

theorem Agree.cases {α : Type} {related : α → α → Prop} {first second : Except ParseCause α}
    (agree : Agree related first second) :
    (∃ one other, first = .ok one ∧ second = .ok other ∧ related one other) ∨
      ∃ cause, first = .error cause ∧ second = .error cause := by
  cases agree with
  | results holds => exact .inl ⟨_, _, rfl, rfl, holds⟩
  | refusals cause => exact .inr ⟨cause, rfl, rfl⟩

theorem Agree.imp {α : Type} {stronger weaker : α → α → Prop} {first second : Except ParseCause α}
    (agree : Agree stronger first second)
    (implies : ∀ {one other}, stronger one other → weaker one other) :
    Agree weaker first second := by
  cases agree with
  | results holds => exact .results (implies holds)
  | refusals cause => exact .refusals cause

namespace ParseState

/-- A relation between stacks of one size that every connective keeps. -/
structure KeptByCombining (related : List Formula → List Formula → Prop) : Prop where
  sameLength : ∀ {first second}, related first second → first.length = second.length
  combine : ∀ {op first second}, related first second →
    Agree related (combine op first) (combine op second)

structure InStep (related : List Formula → List Formula → Prop) (first second : ParseState) :
    Prop where
  operands : related first.operands second.operands
  pending : first.pending = second.pending

/-- Tokens of one kind. Two operands have to keep the relation where they are pushed. -/
inductive Alongside (related : List Formula → List Formula → Prop) : String → String → Prop
  | operand {token other : String} (isOperand : Token.IsOperand token)
      (otherOperand : Token.IsOperand other)
      (pushes : ∀ {first second}, related first second →
        related (.atom token :: first) (.atom other :: second)) : Alongside related token other
  | opening : Alongside related "(" "("
  | closing : Alongside related ")" ")"
  | connective {op : Connective} {token other : String} (keyword : Text.upper token = op.keyword)
      (otherKeyword : Text.upper other = op.keyword) : Alongside related token other

variable {related : List Formula → List Formula → Prop} {first second : ParseState}
  {token other : String} {tokens others : List String}

theorem Alongside.same (pushes : ∀ {token first second}, related first second →
    related (.atom token :: first) (.atom token :: second)) (token : String) :
    Alongside related token token := by
  have written := Token.ofText_written token
  generalize Token.ofText token = kind at written
  cases written with
  | operand isOperand => exact .operand isOperand isOperand pushes
  | opening => exact .opening
  | closing => exact .closing
  | connective keyword => exact .connective keyword keyword

theorem reduce_agree (kept : KeptByCombining related) {operands otherOperands : List Formula}
    (holds : related operands otherOperands) (bound : Nat) (pending : List Pending) :
    Agree (InStep related) (reduce bound operands pending) (reduce bound otherOperands pending) := by
  induction pending generalizing operands otherOperands with
  | nil => exact .results ⟨holds, rfl⟩
  | cons top pending pendingIH =>
      cases top with
      | paren => exact .results ⟨holds, rfl⟩
      | connective op =>
          rw [reduce, reduce]
          split
          · have applies : Agree related (combine op operands) (combine op otherOperands) :=
              kept.combine holds
            rcases applies.cases with
              ⟨combined, otherCombined, applied, otherApplied, stillHolds⟩ |
              ⟨cause, refused, otherRefused⟩
            · rw [applied, otherApplied]
              exact pendingIH stillHolds
            · rw [refused, otherRefused]
              exact .refusals cause
          · exact .results ⟨holds, rfl⟩

theorem reduceGroup_agree (kept : KeptByCombining related) (inStep : InStep related first second) :
    Agree (InStep related) first.reduceGroup second.reduceGroup := by
  rw [reduceGroup, reduceGroup, ← inStep.pending]
  exact reduce_agree kept inStep.operands 0 first.pending

theorem closeGroup_agree (kept : KeptByCombining related) (inStep : InStep related first second) :
    Agree (InStep related) first.closeGroup second.closeGroup := by
  unfold closeGroup
  rcases (reduceGroup_agree kept inStep).cases with
    ⟨⟨operands, pending⟩, ⟨otherOperands, otherPending⟩, reduced, otherReduced, holds, same⟩ |
    ⟨cause, refused, otherRefused⟩
  · cases same
    rw [reduced, otherReduced]
    match pending with
    | [] => exact .refusals _
    | .paren :: pending => exact .results ⟨holds, rfl⟩
    | .connective _ :: _ => exact .refusals _
  · rw [refused, otherRefused]
    exact .refusals cause

theorem step_agree (kept : KeptByCombining related) (alongside : Alongside related token other)
    (inStep : InStep related first second) :
    Agree (InStep related) (first.step token) (second.step other) := by
  cases alongside with
  | operand isOperand otherOperand pushes =>
      rw [step, step, (Token.Written.operand isOperand).ofText_eq,
        (Token.Written.operand otherOperand).ofText_eq]
      exact .results ⟨pushes inStep.operands, inStep.pending⟩
  | opening =>
      rw [step, step, Token.Written.opening.ofText_eq]
      exact .results ⟨inStep.operands, congrArg (Pending.paren :: ·) inStep.pending⟩
  | closing =>
      rw [step, step, Token.Written.closing.ofText_eq]
      exact closeGroup_agree kept inStep
  | @connective op _ _ keyword otherKeyword =>
      rw [step, step, (Token.Written.connective keyword).ofText_eq,
        (Token.Written.connective otherKeyword).ofText_eq, ← inStep.pending]
      dsimp only
      rcases (reduce_agree kept inStep.operands op.precedence first.pending).cases with
        ⟨reduced, otherReduced, reduces, otherReduces, holds, same⟩ |
        ⟨cause, refused, otherRefused⟩
      · rw [reduces, otherReduces]
        exact .results ⟨holds, congrArg (Pending.connective op :: ·) same⟩
      · rw [refused, otherRefused]
        exact .refusals cause

theorem steps_agree (kept : KeptByCombining related)
    (alongside : List.Forall₂ (Alongside related) tokens others)
    (inStep : InStep related first second) :
    Agree (InStep related) (first.steps tokens) (second.steps others) := by
  induction alongside generalizing first second with
  | nil => exact .results inStep
  | cons tokenAlongside _ restIH =>
      rw [steps, steps]
      rcases (step_agree kept tokenAlongside inStep).cases with
        ⟨next, otherNext, stepped, otherStepped, nextInStep⟩ | ⟨cause, refused, otherRefused⟩
      · rw [stepped, otherStepped]
        exact restIH nextInStep
      · rw [refused, otherRefused]
        exact .refusals cause

/-- Readings in step end in formulas that are related, each as the only operand of its stack. -/
theorem finish_agree (kept : KeptByCombining related) (inStep : InStep related first second) :
    Agree (fun formula otherFormula => related [formula] [otherFormula])
      first.finish second.finish := by
  unfold finish settle
  rcases (reduceGroup_agree kept inStep).cases with
    ⟨⟨operands, pending⟩, ⟨otherOperands, otherPending⟩, reduced, otherReduced, holds, same⟩ |
    ⟨cause, refused, otherRefused⟩
  · cases same
    rw [reduced, otherReduced]
    cases pending with
    | cons _ _ => exact .refusals _
    | nil =>
        match operands, otherOperands, kept.sameLength holds with
        | [], [], _ => exact .refusals _
        | [formula], [otherFormula], _ => exact .results holds
        | _ :: _ :: _, _ :: _ :: _, _ => exact .refusals _
  · rw [refused, otherRefused]
    exact .refusals cause

/-- What stays in step through the tokens ends in step. -/
theorem steps_finish_agree (kept : KeptByCombining related)
    (alongside : List.Forall₂ (Alongside related) tokens others)
    (inStep : InStep related first second) :
    Agree (fun formula otherFormula => related [formula] [otherFormula])
      ((first.steps tokens).bind finish) ((second.steps others).bind finish) := by
  rcases (steps_agree kept alongside inStep).cases with
    ⟨reached, otherReached, walked, otherWalked, stillInStep⟩ | ⟨cause, refused, otherRefused⟩
  · rw [walked, otherWalked]
    exact finish_agree kept stillInStep
  · rw [refused, otherRefused]
    exact .refusals cause

end ParseState

end Connexive
