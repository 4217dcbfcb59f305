import Connexive.Formula.Token

namespace Connexive

/-!
Reading a formula from its tokens by operator precedence. Operands wait on one stack, connectives
and open parentheses on the other; both are kept with the top first. A connective is applied when
one that binds no tighter follows it, when its group closes, or at the end.
-/

/-- What waits for operands or for its closing parenthesis. -/
inductive Pending
  | paren
  | connective (op : Connective)
  deriving DecidableEq

inductive ParseCause
  | empty
  | unmatchedClosing
  | unclosedOpening
  | missingOperand (op : Connective)
  | notOneFormula

inductive ParseKind
  | emptyExpression
  | mismatchedParentheses
  | insufficientOperands
  | invalidSyntax
  deriving DecidableEq

def ParseCause.kind : ParseCause → ParseKind
  | empty => .emptyExpression
  | unmatchedClosing | unclosedOpening => .mismatchedParentheses
  | missingOperand _ => .insufficientOperands
  | notOneFormula => .invalidSyntax

def ParseCause.message : ParseCause → String
  | empty => "Cannot parse an empty expression."
  | unmatchedClosing => "Mismatched parentheses: no matching '(' found."
  | unclosedOpening => "Mismatched parentheses: remaining '(' on stack."
  | missingOperand .not => "Invalid syntax for NOT operator."
  | missingOperand op => "Invalid syntax for binary operator " ++ op.keyword ++ "."
  | notOneFormula => "Invalid expression syntax: check operators and operands."

/-- Why a token list is no formula, with the whole list. -/
structure ParseError where
  cause : ParseCause
  tokens : List String

structure ParseState where
  operands : List Formula
  pending : List Pending

namespace ParseState

def start : ParseState := ⟨[], []⟩

/-- Replaces the operands of a connective, taken from the top, by the compound. -/
def combine (op : Connective) (operands : List Formula) : Except ParseCause (List Formula) :=
  match op, operands with
  | .not, inner :: rest => .ok (.not inner :: rest)
  | .and, right :: left :: rest => .ok (.and left right :: rest)
  | .or, right :: left :: rest => .ok (.or left right :: rest)
  | .implies, right :: left :: rest => .ok (.implies left right :: rest)
  | op, _ => .error (.missingOperand op)

/-- Applies pending connectives from the top for as long as they bind at least as tight as
`bound`. An open parenthesis always stops it. -/
def reduce (bound : Nat) (operands : List Formula) : List Pending → Except ParseCause ParseState
  | .connective op :: pending =>
    if bound ≤ op.precedence then
      match combine op operands with
      | .ok combined => reduce bound combined pending
      | .error cause => .error cause
    else
      .ok ⟨operands, .connective op :: pending⟩
  | pending => .ok ⟨operands, pending⟩

/-- Applies what is pending in the innermost group. -/
def reduceGroup (state : ParseState) : Except ParseCause ParseState :=
  reduce 0 state.operands state.pending

def closeGroup (state : ParseState) : Except ParseCause ParseState :=
  match state.reduceGroup with
  | .error cause => .error cause
  | .ok ⟨operands, .paren :: pending⟩ => .ok ⟨operands, pending⟩
  | .ok _ => .error .unmatchedClosing

def step (state : ParseState) (token : String) : Except ParseCause ParseState :=
  match Token.ofText token with
  | .operand name => .ok { state with operands := .atom name :: state.operands }
  | .opening => .ok { state with pending := .paren :: state.pending }
  | .closing => state.closeGroup
  | .connective op =>
    match reduce op.precedence state.operands state.pending with
    | .ok reduced => .ok { reduced with pending := .connective op :: reduced.pending }
    | .error cause => .error cause

def steps (state : ParseState) : List String → Except ParseCause ParseState
  | [] => .ok state
  | token :: rest =>
    match state.step token with
    | .ok next => next.steps rest
    | .error cause => .error cause

/-- The operands left once nothing is pending any more. -/
def settle (state : ParseState) : Except ParseCause (List Formula) :=
  match state.reduceGroup with
  | .error cause => .error cause
  | .ok ⟨operands, []⟩ => .ok operands
  | .ok _ => .error .unclosedOpening

def finish (state : ParseState) : Except ParseCause Formula :=
  match state.settle with
  | .error cause => .error cause
  | .ok [formula] => .ok formula
  | .ok _ => .error .notOneFormula

end ParseState

/-- The formula that a token list writes, or the cause of its refusal. -/
def Formula.read (tokens : List String) : Except ParseCause Formula :=
  if tokens.isEmpty then .error .empty
  else
    match ParseState.start.steps tokens with
    | .ok state => state.finish
    | .error cause => .error cause

def Formula.parse (tokens : List String) : Except ParseError Formula :=
  (Formula.read tokens).mapError (ParseError.mk · tokens)

end Connexive
