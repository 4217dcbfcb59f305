import Connexive.Proofs.Formula.Stacks

namespace Connexive

/-! Reading keeps the operands as they are written. At every moment the names in the stack of
operands, bottom first, are the operand tokens read so far.
-/

def operandsOf (tokens : List String) : List String :=
  tokens.filter fun token => Token.IsOperand token

theorem mem_operandsOf_iff {tokens : List String} {token : String} :
    token ∈ operandsOf tokens ↔ token ∈ tokens ∧ Token.IsOperand token := by
  simp [operandsOf]

theorem operandsOf_append (before after : List String) :
    operandsOf (before ++ after) = operandsOf before ++ operandsOf after :=
  List.filter_append before after

theorem operandsOf_operand {token : String} (isOperand : Token.IsOperand token) :
    operandsOf [token] = [token] := by
  simp [operandsOf, isOperand]

theorem operandsOf_other {token : String} (other : ¬ Token.IsOperand token) :
    operandsOf [token] = [] := by
  simp [operandsOf, other]

namespace ParseState

variable {state next : ParseState} {operands combined : List Formula} {pending : List Pending}
  {bound : Nat} {op : Connective} {token : String}

def namesOf (operands : List Formula) : List String :=
  operands.reverse.flatMap Formula.names

theorem namesOf_cons (formula : Formula) (operands : List Formula) :
    namesOf (formula :: operands) = namesOf operands ++ formula.names := by
  simp [namesOf]

theorem Combined.names_eq (applied : Combined op operands combined) :
    namesOf combined = namesOf operands := by
  cases applied <;> simp only [namesOf_cons, Formula.names, List.append_assoc]

theorem reduce_names (reduced : reduce bound operands pending = .ok next) :
    namesOf next.operands = namesOf operands := by
  have kept := reduce_invariant (motive := fun now _ => namesOf now = namesOf operands)
    (fun applied same => applied.names_eq.trans same) rfl reduced
  exact kept.1

theorem Stepped.names_eq (stepped : Stepped state token next) :
    namesOf next.operands = namesOf state.operands ++ operandsOf [token] := by
  cases stepped with
  | operand isOperand =>
      rw [operandsOf_operand isOperand]
      exact namesOf_cons _ _
  | opening =>
      have other : ¬ Token.IsOperand "(" := fun isOperand => isOperand.notOpening rfl
      rw [operandsOf_other other, List.append_nil]
  | closing reduced =>
      have other : ¬ Token.IsOperand ")" := fun isOperand => isOperand.notClosing rfl
      rw [operandsOf_other other, List.append_nil]
      have kept := reduce_names reduced
      exact kept
  | connective keyword reduced =>
      have other : ¬ Token.IsOperand token := fun isOperand => isOperand.notKeyword _ keyword
      rw [operandsOf_other other, List.append_nil]
      have kept := reduce_names reduced
      exact kept

theorem steps_names {tokens : List String} (read : start.steps tokens = .ok next) :
    namesOf next.operands = operandsOf tokens := by
  have kept : namesOf next.operands = operandsOf ([] ++ tokens) :=
    steps_invariant (motive := fun state before => namesOf state.operands = operandsOf before)
      (fun stepped same => by rw [stepped.names_eq, same, operandsOf_append]) rfl read
  exact kept

end ParseState

/-- The atoms of a formula that is read are the operands of its tokens, in order. -/
theorem Formula.names_of_read {tokens : List String} {formula : Formula}
    (read : Formula.read tokens = .ok formula) : formula.names = operandsOf tokens := by
  obtain ⟨state, walked, finished⟩ := Formula.read_iff.mp read
  have settled := ParseState.reduce_names (ParseState.finish_iff.mp finished)
  rw [ParseState.steps_names walked] at settled
  simpa [ParseState.namesOf] using settled

theorem Formula.names_ne_nil (formula : Formula) : formula.names ≠ [] := by
  induction formula with
  | atom name => simp [names]
  | not inner innerIH => exact innerIH
  | and left right leftIH | or left right leftIH | implies left right leftIH =>
      simp [names, leftIH]

end Connexive
