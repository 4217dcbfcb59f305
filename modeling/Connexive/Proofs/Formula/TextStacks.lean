import Connexive.Formula.Trace
import Connexive.Proofs.Formula.Stacks

namespace Connexive

/-! Reading where pending operators are texts. What an operator means is looked up in tables, where
it may be missing, and a stack may have nothing to take. Such a reading goes through the same stacks
as the one with connectives and ends as it does, because it never asks for what is not there.
-/

/-- How a reading over texts ends without a formula: it refuses the tokens, or it looks for what is
not there. -/
inductive Halt
  | refused (message : String) (kind : ParseKind) (tokens : List String)
  | noEntry (key : String)
  | nothingLeft

namespace Halt

def ofCause (tokens : List String) (cause : ParseCause) : Halt :=
  .refused cause.message cause.kind tokens

def ofError (error : ParseError) : Halt :=
  ofCause error.tokens error.cause

end Halt

/-- Both stacks, with the top first. -/
structure TextStacks where
  operands : List Formula
  operators : List String

namespace TextStacks

def precedences : List (String × Nat) :=
  [("NOT", 4), ("AND", 3), ("OR", 2), ("RELEVANTLY_IMPLIES", 1)]

def compounds : List (String × (Formula → Formula → Formula)) :=
  [("AND", .and), ("OR", .or), ("RELEVANTLY_IMPLIES", .implies)]

def entry {α : Type} (table : List (String × α)) (key : String) : Except Halt α :=
  match table.lookup key with
  | some found => .ok found
  | none => .error (.noEntry key)

def pop {α : Type} : List α → Except Halt (α × List α)
  | top :: rest => .ok (top, rest)
  | [] => .error .nothingLeft

/-- What replaces the operands of an operator by their compound. -/
abbrev Application := List Formula → String → Except Halt (List Formula)

def apply (tokens : List String) : Application := fun operands operator =>
  if operator = "NOT" then
    if operands.isEmpty then
      .error (.refused "Invalid syntax for NOT operator." .insufficientOperands tokens)
    else do
      let (inner, rest) ← pop operands
      return .not inner :: rest
  else if operands.length < 2 then
    .error (.refused ("Invalid syntax for binary operator " ++ operator ++ ".")
      .insufficientOperands tokens)
  else do
    let (right, rest) ← pop operands
    let (left, rest) ← pop rest
    let compound ← entry compounds operator
    return compound left right :: rest

/-- Applies operators from the top down to the next parenthesis, for as long as they are `tight`. -/
def unwind (apply : Application) (tight : String → Except Halt Bool) (operands : List Formula) :
    List String → Except Halt TextStacks
  | [] => .ok ⟨operands, []⟩
  | operator :: operators =>
    if operator = "(" then .ok ⟨operands, operator :: operators⟩
    else do
      if ← tight operator then
        let combined ← apply operands operator
        unwind apply tight combined operators
      else return ⟨operands, operator :: operators⟩

/-- Whether an operator binds at least as tight as the keyword that follows it. -/
def bindsBefore (keyword operator : String) : Except Halt Bool := do
  let own ← entry precedences operator
  let bound ← entry precedences keyword
  return decide (bound ≤ own)

def step (apply : Application) (tokens : List String) (held : TextStacks) (token : String) :
    Except Halt TextStacks :=
  let keyword := Text.upper token
  if (precedences.lookup keyword).isSome then do
    let unwound ← unwind apply (bindsBefore keyword) held.operands held.operators
    return ⟨unwound.operands, keyword :: unwound.operators⟩
  else if token = "(" then .ok ⟨held.operands, token :: held.operators⟩
  else if token = ")" then do
    let unwound ← unwind apply (fun _ => .ok true) held.operands held.operators
    if unwound.operators.isEmpty then .error (.ofCause tokens .unmatchedClosing)
    else do
      let (_, operators) ← pop unwound.operators
      return ⟨unwound.operands, operators⟩
  else .ok ⟨.atom token :: held.operands, held.operators⟩

/-- The stacks after the tokens `before` of `tokens`. -/
def walk (apply : Application) (tokens before : List String) : Except Halt TextStacks :=
  before.foldlM (step apply tokens) ⟨[], []⟩

/-- Applies all that is pending once the tokens are read. -/
def drain (apply : Application) (tokens : List String) (operands : List Formula) :
    List String → Except Halt (List Formula)
  | [] => .ok operands
  | operator :: operators =>
    if operator = "(" then .error (.ofCause tokens .unclosedOpening)
    else do
      let combined ← apply operands operator
      drain apply tokens combined operators

def read (apply : Application) (tokens : List String) : Except Halt Formula :=
  if tokens.isEmpty then .error (.ofCause tokens .empty)
  else do
    let held ← walk apply tokens tokens
    let operands ← drain apply tokens held.operands held.operators
    if operands.length ≠ 1 then .error (.ofCause tokens .notOneFormula)
    else do
      let (formula, _) ← pop operands
      return formula

/-- The stacks of a state, with what is pending as texts. -/
def ofState (state : ParseState) : TextStacks :=
  ⟨state.operands, state.pending.map Pending.text⟩

/-- The outcome of a reading over connectives, as one over texts. -/
def outcome {α β : Type} (tokens : List String) (shown : α → β) (result : Except ParseCause α) :
    Except Halt β :=
  (result.map shown).mapError (Halt.ofCause tokens)

open ParseState

variable {application : Application} {tokens before : List String} {operands : List Formula}
  {pending : List Pending} {bound : Nat} {test : String → Except Halt Bool}

@[simp] theorem ok_bind {α β : Type} (value : α) (next : α → Except Halt β) :
    (Except.ok value >>= next) = next value := rfl

@[simp] theorem error_bind {α β : Type} (halt : Halt) (next : α → Except Halt β) :
    (Except.error halt >>= next) = .error halt := rfl

@[simp] theorem outcome_ok {α β : Type} (shown : α → β) (value : α) :
    outcome tokens shown (.ok value) = .ok (shown value) := rfl

@[simp] theorem outcome_error {α β : Type} (shown : α → β) (cause : ParseCause) :
    outcome tokens shown (.error cause) = .error (.ofCause tokens cause) := rfl

theorem keyword_ne_paren (op : Connective) : op.keyword ≠ "(" := by
  cases op <;> decide

theorem lookup_keyword (op : Connective) : precedences.lookup op.keyword = some op.precedence := by
  cases op <;> decide

theorem lookup_other {text : String} (other : ∀ op : Connective, text ≠ op.keyword) :
    precedences.lookup text = none := by
  have apart (op : Connective) : (text == op.keyword) = false := by simpa using other op
  have not := apart .not
  have and := apart .and
  have or := apart .or
  have implies := apart .implies
  simp only [Connective.keyword] at not and or implies
  simp [precedences, List.lookup_cons, not, and, or, implies]

theorem bindsBefore_keyword (op pendingOp : Connective) :
    bindsBefore op.keyword pendingOp.keyword =
      .ok (decide (op.precedence ≤ pendingOp.precedence)) := by
  simp only [bindsBefore, entry, lookup_keyword]
  rfl

/-- That keywords are applied as connectives are, whatever is done with other texts. -/
def AppliesKeywords (application : Application) (tokens : List String) : Prop :=
  ∀ operands (op : Connective),
    application operands op.keyword = outcome tokens id (combine op operands)

theorem apply_appliesKeywords (tokens : List String) : AppliesKeywords (apply tokens) tokens := by
  intro operands op
  cases op with
  | not =>
      match operands with
      | [] => rfl
      | _ :: _ => rfl
  | and | or | implies =>
      match operands with
      | [] => rfl
      | [_] => rfl
      | _ :: _ :: _ => rfl

theorem unwind_eq (applies : AppliesKeywords application tokens)
    (tests : ∀ op : Connective, test op.keyword = .ok (decide (bound ≤ op.precedence))) :
    unwind application test operands (pending.map Pending.text) =
      outcome tokens ofState (reduce bound operands pending) := by
  induction pending generalizing operands with
  | nil => rfl
  | cons top pending pendingIH =>
      cases top with
      | paren => rfl
      | connective op =>
          rw [List.map_cons, Pending.text, unwind, if_neg (keyword_ne_paren op), tests, reduce]
          by_cases tight : bound ≤ op.precedence
          · have applied := applies operands op
            cases combined : combine op operands with
            | error cause =>
                rw [combined] at applied
                simp [tight, applied]
            | ok operands =>
                rw [combined] at applied
                simp [tight, applied, pendingIH]
          · simp only [tight, decide_false, ok_bind]
            rfl

section Step

variable (application tokens) (held : TextStacks) {token : String}

theorem step_operand (isOperand : Token.IsOperand token) :
    step application tokens held token =
      .ok ⟨.atom token :: held.operands, held.operators⟩ := by
  simp [step, lookup_other isOperand.notKeyword, isOperand.notOpening, isOperand.notClosing]

theorem step_keyword {op : Connective} (keyword : Text.upper token = op.keyword) :
    step application tokens held token =
      (unwind application (bindsBefore op.keyword) held.operands held.operators).map
        fun unwound => ⟨unwound.operands, op.keyword :: unwound.operators⟩ := by
  simp only [step, keyword, lookup_keyword, Option.isSome_some, if_true]
  rfl

theorem step_closing :
    step application tokens held ")" =
      (unwind application (fun _ => .ok true) held.operands held.operators).bind
        fun unwound =>
          match unwound.operators with
          | [] => .error (.ofCause tokens .unmatchedClosing)
          | _ :: operators => .ok ⟨unwound.operands, operators⟩ := by
  have noKeyword : (precedences.lookup (Text.upper ")")).isSome = false := by decide
  have notOpening : ¬ ")" = "(" := by decide
  simp only [step, noKeyword, notOpening, if_false, if_true]
  cases unwind application (fun _ => .ok true) held.operands held.operators with
  | error halt => rfl
  | ok unwound =>
      obtain ⟨operands, operators⟩ := unwound
      cases operators <;> rfl

end Step

theorem step_eq (applies : AppliesKeywords application tokens) (state : ParseState)
    (token : String) :
    step application tokens (ofState state) token =
      outcome tokens ofState (state.step token) := by
  have written := Token.ofText_written token
  unfold ParseState.step
  generalize Token.ofText token = kind at written
  cases written with
  | operand isOperand =>
      rw [step_operand application tokens _ isOperand]
      rfl
  | opening => rfl
  | closing =>
      have unwound : unwind application (fun _ => .ok true) state.operands
          (state.pending.map Pending.text) =
            outcome tokens ofState (reduce 0 state.operands state.pending) :=
        unwind_eq applies fun op => by simp
      rw [step_closing, ofState, unwound]
      simp only [closeGroup, reduceGroup]
      cases reduction : reduce 0 state.operands state.pending with
      | error cause => rfl
      | ok reduced =>
          obtain ⟨operands, pending⟩ := reduced
          cases reduce_zero_pending reduction with
          | inl none =>
              cases none
              rfl
          | inr opened =>
              obtain ⟨below, stopped⟩ := opened
              cases stopped
              rfl
  | @connective op _ keyword =>
      rw [step_keyword application tokens _ keyword, ofState,
        unwind_eq applies (bindsBefore_keyword op)]
      simp only
      cases reduce op.precedence state.operands state.pending with
      | error cause => rfl
      | ok reduced => rfl

theorem walk_eq (applies : AppliesKeywords application tokens) (before : List String) :
    walk application tokens before =
      outcome tokens ofState (ParseState.start.steps before) := by
  have walked (state : ParseState) : before.foldlM (step application tokens) (ofState state) =
      outcome tokens ofState (state.steps before) := by
    induction before generalizing state with
    | nil => rfl
    | cons token rest restIH =>
        rw [List.foldlM_cons, step_eq applies, steps]
        cases state.step token with
        | error cause => rfl
        | ok next => exact restIH next
  exact walked .start

theorem drain_eq (applies : AppliesKeywords application tokens) :
    drain application tokens operands (pending.map Pending.text) =
      outcome tokens id (settle ⟨operands, pending⟩) := by
  induction pending generalizing operands with
  | nil => rfl
  | cons top pending pendingIH =>
      cases top with
      | paren => rfl
      | connective op =>
          rw [List.map_cons, Pending.text, drain, if_neg (keyword_ne_paren op), applies]
          cases combined : combine op operands with
          | error cause => simp [settle, reduceGroup, reduce, combined]
          | ok operands =>
              have rest : drain application tokens operands (pending.map Pending.text) =
                  outcome tokens id (settle ⟨operands, pending⟩) := pendingIH
              simpa [settle, reduceGroup, reduce, combined] using rest

theorem read_eq (applies : AppliesKeywords application tokens) :
    read application tokens = (Formula.parse tokens).mapError Halt.ofError := by
  have shown : (Formula.parse tokens).mapError Halt.ofError =
      outcome tokens id (Formula.read tokens) := by
    unfold Formula.parse
    cases Formula.read tokens <;> rfl
  rw [shown]
  unfold read Formula.read
  split
  · rfl
  · rw [walk_eq applies]
    cases ParseState.start.steps tokens with
    | error cause => rfl
    | ok state =>
        have drained : drain application tokens state.operands (state.pending.map Pending.text) =
            outcome tokens id (settle state) := drain_eq applies
        simp only [outcome_ok, ok_bind, ofState, drained, finish]
        cases settle state with
        | error cause => rfl
        | ok operands =>
            match operands with
            | [] => rfl
            | [_] => rfl
            | _ :: _ :: _ => rfl

end TextStacks

end Connexive
