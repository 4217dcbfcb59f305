import Connexive.Proofs.Formula.Infix

namespace Connexive

/-! Reading counts operands and never asks what may stand next. The check it leaves out is a matter
of neighbours alone, and is all that is missing: a list is an infix expression exactly when it is
read and its tokens stand in order.
-/

/-- What the tokens so far wait for: an operand, the operand of a negation, or a connective of two
operands. -/
inductive Place
  | operand
  | negated
  | joint
  deriving DecidableEq

namespace Place

/-- The place behind a token, unless the token may not stand there. -/
def after : Place → Token → Option Place
  | operand, .operand _ | negated, .operand _ => some joint
  | operand, .opening | negated, .opening => some operand
  | operand, .connective .not => some negated
  | joint, .closing => some joint
  | joint, .connective op => if op = .not then none else some operand
  | _, _ => none

/-- Whether the tokens may stand in a row from this place on, and leave nothing to wait for. -/
def accepts : Place → List String → Bool
  | place, [] => place = joint
  | place, token :: rest =>
    match place.after (Token.ofText token) with
    | some next => next.accepts rest
    | none => false

theorem accepts_cons {place next : Place} {token : Token} {text : String}
    (written : token.Written text) (follows : place.after token = some next)
    (rest : List String) : place.accepts (text :: rest) = next.accepts rest := by
  rw [accepts, written.ofText_eq, follows]

end Place

/-- Every token stands where the grammar of infix notation has one of its kind. Parentheses need not
match. -/
def InOrder (tokens : List String) : Prop := Place.operand.accepts tokens = true

instance (tokens : List String) : Decidable (InOrder tokens) :=
  inferInstanceAs (Decidable (_ = true))

variable {tokens : List String} {formula : Formula} {level : Nat}

theorem Place.accepts_binary {left right : List String} {token : String} (op : Connective)
    (binary : op ≠ .not) (keyword : Text.upper token = op.keyword)
    (leftFills : ∀ rest, operand.accepts (left ++ rest) = joint.accepts rest)
    (rightFills : ∀ rest, operand.accepts (right ++ rest) = joint.accepts rest)
    (rest : List String) :
    operand.accepts ((left ++ token :: right) ++ rest) = joint.accepts rest := by
  have follows : joint.after (.connective op) = some operand := if_neg binary
  rw [List.append_assoc, leftFills, List.cons_append, accepts_cons (.connective keyword) follows,
    rightFills]

/-- An expression fills the place of an operand. One of the tightest level fills the place behind a
negation as well. -/
theorem Infix.accepts (derivation : Infix level tokens formula) (rest : List String) :
    Place.operand.accepts (tokens ++ rest) = Place.joint.accepts rest ∧
      (5 ≤ level → Place.negated.accepts (tokens ++ rest) = Place.joint.accepts rest) := by
  induction derivation generalizing rest with
  | implies _ keyword _ firstIH secondIH =>
      exact ⟨Place.accepts_binary .implies (by decide) keyword (fun rest => (firstIH rest).1)
        (fun rest => (secondIH rest).1) rest, fun tight => absurd tight (by decide)⟩
  | or _ keyword _ firstIH secondIH =>
      exact ⟨Place.accepts_binary .or (by decide) keyword (fun rest => (firstIH rest).1)
        (fun rest => (secondIH rest).1) rest, fun tight => absurd tight (by decide)⟩
  | and _ keyword _ firstIH secondIH =>
      exact ⟨Place.accepts_binary .and (by decide) keyword (fun rest => (firstIH rest).1)
        (fun rest => (secondIH rest).1) rest, fun tight => absurd tight (by decide)⟩
  | @not tokens token formula keyword _ innerIH =>
      have written : Token.Written (.connective .not) token := .connective keyword
      refine ⟨?_, fun tight => absurd tight (by decide)⟩
      rw [List.cons_append, Place.accepts_cons written rfl]
      exact (innerIH rest).2 (Nat.le_refl 5)
  | operand isOperand =>
      exact ⟨Place.accepts_cons (.operand isOperand) rfl rest,
        fun _ => Place.accepts_cons (.operand isOperand) rfl rest⟩
  | group _ innerIH =>
      have filled := (innerIH (")" :: rest)).1
      rw [Place.accepts_cons .closing rfl] at filled
      rw [List.cons_append, List.append_assoc, List.singleton_append,
        Place.accepts_cons .opening rfl, Place.accepts_cons .opening rfl]
      exact ⟨filled, fun _ => filled⟩
  | tighter _ innerIH =>
      exact ⟨(innerIH rest).1, fun tight => (innerIH rest).2 (by omega)⟩

theorem Infix.inOrder (derivation : Infix level tokens formula) : InOrder tokens := by
  have filled := (derivation.accepts []).1
  rwa [List.append_nil] at filled

end Connexive
