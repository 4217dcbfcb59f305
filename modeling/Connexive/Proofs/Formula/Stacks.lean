import Connexive.Formula.Parse
import Connexive.Proofs.Formula.Token
import Connexive.Proofs.Outcome

namespace Connexive

/-! What each operation on the two stacks does, guards included. Later proofs about a reading go by
cases over these relations and never look into the operations.
-/

namespace ParseState

variable {state next : ParseState} {operands combined : List Formula} {pending : List Pending}
  {bound : Nat} {op : Connective} {token : String}

/-- A connective takes its operands from the top, the last one first. -/
inductive Combined : Connective → List Formula → List Formula → Prop
  | not {inner : Formula} {rest : List Formula} : Combined .not (inner :: rest) (.not inner :: rest)
  | and {left right : Formula} {rest : List Formula} :
      Combined .and (right :: left :: rest) (.and left right :: rest)
  | or {left right : Formula} {rest : List Formula} :
      Combined .or (right :: left :: rest) (.or left right :: rest)
  | implies {left right : Formula} {rest : List Formula} :
      Combined .implies (right :: left :: rest) (.implies left right :: rest)

theorem combine_iff : combine op operands = .ok combined ↔ Combined op operands combined := by
  constructor
  · intro applied
    unfold combine at applied
    split at applied
    · cases applied; exact .not
    · cases applied; exact .and
    · cases applied; exact .or
    · cases applied; exact .implies
    · contradiction
  · rintro (_ | _ | _ | _) <;> rfl

/-- No connective waits in the innermost group that binds as tight as `bound`. The topmost one is
the tightest, so only that one counts. -/
def Yields (bound : Nat) : List Pending → Prop
  | .connective op :: _ => op.precedence < bound
  | _ => True

@[simp] theorem yields_nil : Yields bound [] := trivial

@[simp] theorem yields_paren : Yields bound (.paren :: pending) := trivial

theorem Yields.mono {tighter : Nat} (yields : Yields bound pending) (le : bound ≤ tighter) :
    Yields tighter pending := by
  match pending, yields with
  | [], _ => trivial
  | .paren :: _, _ => trivial
  | .connective _ :: _, below => exact Nat.lt_of_lt_of_le below le

theorem precedence_lt_five (op : Connective) : op.precedence < 5 := by
  cases op <;> decide

theorem yields_five (pending : List Pending) : Yields 5 pending := by
  match pending with
  | [] => trivial
  | .paren :: _ => trivial
  | .connective op :: _ => exact precedence_lt_five op

theorem reduce_of_yields (yields : Yields bound pending) :
    reduce bound operands pending = .ok ⟨operands, pending⟩ := by
  match pending, yields with
  | [], _ => rfl
  | .paren :: _, _ => rfl
  | .connective _ :: _, below => rw [reduce, if_neg (Nat.not_le_of_lt below)]

theorem reduce_connective (tight : bound ≤ op.precedence) (applied : Combined op operands combined) :
    reduce bound operands (.connective op :: pending) = reduce bound combined pending := by
  rw [reduce, if_pos tight, combine_iff.mpr applied]

/-- What every application of the topmost connective keeps, reducing keeps. It ends on stacks that
let the bound through. -/
theorem reduce_invariant {motive : List Formula → List Pending → Prop}
    (applies : ∀ {op operands combined pending}, Combined op operands combined →
      motive operands (.connective op :: pending) → motive combined pending)
    (initial : motive operands pending) (reduced : reduce bound operands pending = .ok next) :
    motive next.operands next.pending ∧ Yields bound next.pending := by
  induction pending generalizing operands with
  | nil =>
      cases reduced
      exact ⟨initial, yields_nil⟩
  | cons top pending pendingIH =>
      cases top with
      | paren =>
          cases reduced
          exact ⟨initial, yields_paren⟩
      | connective op =>
          by_cases tight : bound ≤ op.precedence
          · cases applied : combine op operands with
            | error cause =>
                rw [reduce, if_pos tight, applied] at reduced
                contradiction
            | ok combined =>
                rw [reduce, if_pos tight, applied] at reduced
                exact pendingIH (applies (combine_iff.mp applied) initial) reduced
          · rw [reduce, if_neg tight] at reduced
            cases reduced
            exact ⟨initial, Nat.lt_of_not_le tight⟩

/-- Once the innermost group is applied, it ends the list or an open parenthesis is left. -/
theorem reduce_zero_pending (reduced : reduce 0 operands pending = .ok next) :
    next.pending = [] ∨ ∃ rest, next.pending = .paren :: rest := by
  have kept := reduce_invariant (motive := fun _ _ => True) (fun _ same => same) trivial reduced
  have yields := kept.2
  match next.pending, yields with
  | [], _ => exact .inl rfl
  | .paren :: rest, _ => exact .inr ⟨rest, rfl⟩
  | .connective _ :: _, below => exact absurd below (Nat.not_lt_zero _)

/-- The successful steps, by the kind of token. -/
inductive Stepped (state : ParseState) : String → ParseState → Prop
  | operand {token : String} (isOperand : Token.IsOperand token) :
      Stepped state token ⟨.atom token :: state.operands, state.pending⟩
  | opening : Stepped state "(" ⟨state.operands, .paren :: state.pending⟩
  | closing {operands : List Formula} {pending : List Pending}
      (reduced : reduce 0 state.operands state.pending = .ok ⟨operands, .paren :: pending⟩) :
      Stepped state ")" ⟨operands, pending⟩
  | connective {token : String} {op : Connective} {operands : List Formula}
      {pending : List Pending} (keyword : Text.upper token = op.keyword)
      (reduced : reduce op.precedence state.operands state.pending = .ok ⟨operands, pending⟩) :
      Stepped state token ⟨operands, .connective op :: pending⟩

theorem Stepped.of_step (stepped : state.step token = .ok next) : Stepped state token next := by
  have written := Token.ofText_written token
  unfold step at stepped
  -- From here on the text of the token counts only through the kind it was written for.
  generalize Token.ofText token = kind at stepped written
  cases written with
  | operand isOperand => cases stepped; exact .operand isOperand
  | opening => cases stepped; exact .opening
  | closing =>
      simp only [closeGroup] at stepped
      split at stepped
      · contradiction
      · next operands pending reduced =>
          cases stepped
          exact .closing reduced
      · contradiction
  | connective keyword =>
      simp only at stepped
      split at stepped
      · next settled reduced =>
          cases stepped
          exact .connective keyword reduced
      · contradiction

theorem Stepped.step_eq (stepped : Stepped state token next) : state.step token = .ok next := by
  cases stepped with
  | operand isOperand => rw [step, (Token.Written.operand isOperand).ofText_eq]
  | opening => rw [step, Token.Written.opening.ofText_eq]
  | closing reduced =>
      rw [step, Token.Written.closing.ofText_eq]
      simp only [closeGroup, reduceGroup, reduced]
  | connective keyword reduced =>
      rw [step, (Token.Written.connective keyword).ofText_eq]
      simp only [reduced]

theorem Stepped.steps_cons (stepped : Stepped state token next) (rest : List String) :
    state.steps (token :: rest) = next.steps rest := by
  rw [steps, stepped.step_eq]

theorem steps_append_eq (state : ParseState) (before after : List String) :
    state.steps (before ++ after) = (state.steps before).bind (·.steps after) := by
  induction before generalizing state with
  | nil => rfl
  | cons token rest restIH =>
      rw [List.cons_append, steps, steps]
      cases state.step token with
      | error cause => rfl
      | ok middle => exact restIH middle

theorem steps_append {before : List String} (first : state.steps before = .ok next)
    (after : List String) : state.steps (before ++ after) = next.steps after := by
  rw [steps_append_eq, first]
  rfl

theorem steps_append_iff {before after : List String} :
    state.steps (before ++ after) = .ok next ↔
      ∃ middle, state.steps before = .ok middle ∧ middle.steps after = .ok next := by
  rw [steps_append_eq]
  cases state.steps before <;> simp [Except.bind]

/-- What every token keeps, a whole run keeps. The run so far is part of what is kept. -/
theorem steps_invariant {motive : ParseState → List String → Prop}
    (step : ∀ {state token next before}, Stepped state token next →
      motive state before → motive next (before ++ [token]))
    {before tokens : List String} (initial : motive state before)
    (read : state.steps tokens = .ok next) : motive next (before ++ tokens) := by
  induction tokens generalizing state before with
  | nil =>
      cases read
      rwa [List.append_nil]
  | cons token rest restIH =>
      cases stepped : state.step token with
      | error cause =>
          rw [steps, stepped] at read
          contradiction
      | ok middle =>
          have through := Stepped.of_step stepped
          rw [through.steps_cons] at read
          have kept := restIH (step through initial) read
          rwa [List.append_assoc] at kept

theorem finish_iff {formula : Formula} :
    state.finish = .ok formula ↔ reduce 0 state.operands state.pending = .ok ⟨[formula], []⟩ := by
  unfold finish settle reduceGroup
  cases reduced : reduce 0 state.operands state.pending with
  | error cause => simp
  | ok settled =>
      obtain ⟨operands, pending⟩ := settled
      match operands, pending with
      | [], [] => simp
      | [only], [] => simp
      | _ :: _ :: _, [] => simp
      | _, _ :: _ => simp

end ParseState

theorem Formula.read_of_ne_nil {tokens : List String} (nonempty : tokens ≠ []) :
    Formula.read tokens = (ParseState.start.steps tokens).bind ParseState.finish := by
  rw [Formula.read, if_neg (by simpa using nonempty)]
  cases ParseState.start.steps tokens <;> rfl

theorem Formula.read_iff {tokens : List String} {formula : Formula} :
    Formula.read tokens = .ok formula ↔
      ∃ state, ParseState.start.steps tokens = .ok state ∧ state.finish = .ok formula := by
  cases tokens with
  | nil =>
      -- The empty list is refused at once; walking through it would leave no operand either.
      constructor
      · intro read
        contradiction
      · rintro ⟨state, walked, finished⟩
        cases walked
        contradiction
  | cons token rest =>
      unfold Formula.read
      cases walked : ParseState.start.steps (token :: rest) with
      | error cause => simp
      | ok state => simp

theorem Formula.parse_iff {tokens : List String} {formula : Formula} :
    Formula.parse tokens = .ok formula ↔ Formula.read tokens = .ok formula :=
  mapError_eq_ok_iff

theorem Formula.parse_error_iff {tokens : List String} {error : ParseError} :
    Formula.parse tokens = .error error ↔
      Formula.read tokens = .error error.cause ∧ error.tokens = tokens := by
  unfold Formula.parse
  cases Formula.read tokens with
  | ok formula =>
      constructor
      · intro parsed
        contradiction
      · rintro ⟨refused, _⟩
        contradiction
  | error cause =>
      constructor
      · intro refused
        cases refused
        exact ⟨rfl, rfl⟩
      · rintro ⟨refused, rfl⟩
        cases refused
        rfl

end Connexive
