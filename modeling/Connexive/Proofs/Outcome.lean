namespace Connexive

/-! Outcomes of stages that may fail. What a row of stages gives, each of them gave its part of. -/

variable {ε ε' α β : Type}

/-- Stages that succeed in a row succeed one by one. -/
theorem of_bind {stage : Except ε α} {rest : α → Except ε β} {answer : β}
    (ran : stage >>= rest = .ok answer) :
    ∃ result, stage = .ok result ∧ rest result = .ok answer := by
  cases stage with
  | error fault => contradiction
  | ok result => exact ⟨result, rfl, ran⟩

theorem toOption_eq_some_iff {outcome : Except ε α} {result : α} :
    outcome.toOption = some result ↔ outcome = .ok result := by
  cases outcome <;> simp [Except.toOption]

/-- Another description of the faults leaves the results as they are. -/
theorem mapError_eq_ok_iff {outcome : Except ε α} {describe : ε → ε'}
    {result : α} : outcome.mapError describe = .ok result ↔ outcome = .ok result := by
  cases outcome with
  | error fault =>
      constructor
      · intro described
        contradiction
      · intro same
        contradiction
  | ok value =>
      constructor
      · intro described
        cases described
        rfl
      · intro same
        cases same
        rfl

end Connexive
