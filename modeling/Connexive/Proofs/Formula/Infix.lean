import Connexive.Proofs.Formula.Stacks

namespace Connexive

/-! The grammar of infix notation, and the reading of whatever it writes. Reading goes by two stacks
and knows no levels, so the statement about one level speaks of any stacks on which the tokens may
begin: what they leave behind differs from their formula only by connectives that still wait, and
every connective of a looser level applies those at once.
-/

/-- The infix expressions of a level, each with its formula. Level 1 holds the implications, 2 the
disjunctions, 3 the conjunctions, 4 the negations, and 5 the operands and groups. An expression of a
level is one of every looser level too. Connectives of two operands associate to the left. -/
inductive Infix : Nat → List String → Formula → Prop
  | implies {before after : List String} {token : String} {left right : Formula}
      (antecedent : Infix 1 before left) (keyword : Text.upper token = "RELEVANTLY_IMPLIES")
      (consequent : Infix 2 after right) :
      Infix 1 (before ++ token :: after) (.implies left right)
  | or {before after : List String} {token : String} {left right : Formula}
      (first : Infix 2 before left) (keyword : Text.upper token = "OR")
      (second : Infix 3 after right) :
      Infix 2 (before ++ token :: after) (.or left right)
  | and {before after : List String} {token : String} {left right : Formula}
      (first : Infix 3 before left) (keyword : Text.upper token = "AND")
      (second : Infix 4 after right) :
      Infix 3 (before ++ token :: after) (.and left right)
  | not {tokens : List String} {token : String} {formula : Formula}
      (keyword : Text.upper token = "NOT") (inner : Infix 5 tokens formula) :
      Infix 4 (token :: tokens) (.not formula)
  | operand {token : String} (isOperand : Token.IsOperand token) :
      Infix 5 [token] (.atom token)
  | group {tokens : List String} {formula : Formula} (inner : Infix 1 tokens formula) :
      Infix 5 ("(" :: (tokens ++ [")"])) formula
  | tighter {level : Nat} {tokens : List String} {formula : Formula}
      (inner : Infix (level + 1) tokens formula) : Infix level tokens formula

namespace ParseState

/-- Above stacks that let this level through, the tokens are read as the formula: any connective no
tighter than the level finds the stacks as if the formula had been pushed. -/
def Reads (level : Nat) (tokens : List String) (formula : Formula) : Prop :=
  ∀ operands pending, Yields level pending →
    ∃ state, steps ⟨operands, pending⟩ tokens = .ok state ∧
      ∀ bound ≤ level, reduce bound state.operands state.pending =
        reduce bound (formula :: operands) pending

variable {level : Nat} {tokens before after : List String} {token : String}
  {formula left right compound : Formula}

theorem Reads.tighter (inner : Reads (level + 1) tokens formula) : Reads level tokens formula := by
  intro operands pending yields
  obtain ⟨state, read, reduces⟩ := inner operands pending (yields.mono (Nat.le_succ level))
  exact ⟨state, read, fun bound le => reduces bound (Nat.le_succ_of_le le)⟩

theorem Reads.operand (isOperand : Token.IsOperand token) : Reads 5 [token] (.atom token) := by
  intro operands pending _
  exact ⟨_, (Stepped.operand isOperand).steps_cons [], fun _ _ => rfl⟩

theorem Reads.group (inner : Reads 1 tokens formula) :
    Reads 5 ("(" :: (tokens ++ [")"])) formula := by
  intro operands pending _
  -- The parenthesis lets everything through, so the group begins as a whole list does.
  obtain ⟨state, read, reduces⟩ := inner operands (.paren :: pending) yields_paren
  have closes : Stepped state ")" ⟨formula :: operands, pending⟩ :=
    .closing ((reduces 0 (Nat.zero_le 1)).trans (reduce_of_yields yields_paren))
  refine ⟨⟨formula :: operands, pending⟩, ?_, fun _ _ => rfl⟩
  rw [Stepped.opening.steps_cons, steps_append read, closes.steps_cons]
  rfl

theorem Reads.not (keyword : Text.upper token = "NOT") (inner : Reads 5 tokens formula) :
    Reads 4 (token :: tokens) (.not formula) := by
  intro operands pending yields
  have pushed : Stepped ⟨operands, pending⟩ token ⟨operands, .connective .not :: pending⟩ :=
    .connective keyword (reduce_of_yields yields)
  obtain ⟨state, read, reduces⟩ := inner operands (.connective .not :: pending) (yields_five _)
  refine ⟨state, (pushed.steps_cons tokens).trans read, fun bound le => ?_⟩
  rw [reduces bound (Nat.le_succ_of_le le)]
  exact reduce_connective le .not

theorem Reads.binary (op : Connective)
    (combines : ∀ rest, Combined op (right :: left :: rest) (compound :: rest))
    (first : Reads op.precedence before left) (keyword : Text.upper token = op.keyword)
    (second : Reads (op.precedence + 1) after right) :
    Reads op.precedence (before ++ token :: after) compound := by
  intro operands pending yields
  obtain ⟨middle, readFirst, reducesFirst⟩ := first operands pending yields
  have pushed : Stepped middle token ⟨left :: operands, .connective op :: pending⟩ :=
    .connective keyword
      ((reducesFirst op.precedence (Nat.le_refl _)).trans (reduce_of_yields yields))
  -- The second operand stands above its connective, which lets tighter levels through only: this is
  -- where connectives of one level associate to the left.
  obtain ⟨state, readSecond, reducesSecond⟩ :=
    second (left :: operands) (.connective op :: pending) (Nat.lt_succ_self _)
  refine ⟨state, ?_, fun bound le => ?_⟩
  · rw [steps_append readFirst, pushed.steps_cons]
    exact readSecond
  · rw [reducesSecond bound (Nat.le_succ_of_le le)]
    exact reduce_connective le (combines operands)

end ParseState

open ParseState

variable {level : Nat} {tokens : List String} {formula : Formula}

theorem Infix.reads (derivation : Infix level tokens formula) : Reads level tokens formula := by
  induction derivation with
  | implies _ keyword _ firstIH secondIH =>
      exact .binary .implies (fun _ => .implies) firstIH keyword secondIH
  | or _ keyword _ firstIH secondIH =>
      exact .binary .or (fun _ => .or) firstIH keyword secondIH
  | and _ keyword _ firstIH secondIH =>
      exact .binary .and (fun _ => .and) firstIH keyword secondIH
  | not keyword _ innerIH => exact .not keyword innerIH
  | operand isOperand => exact .operand isOperand
  | group _ innerIH => exact .group innerIH
  | tighter _ innerIH => exact innerIH.tighter

theorem Infix.loosen {tighter : Nat} (derivation : Infix tighter tokens formula)
    (le : level ≤ tighter) : Infix level tokens formula := by
  induction tighter with
  | zero =>
      cases Nat.le_zero.mp le
      exact derivation
  | succ tighter tighterIH =>
      by_cases same : level = tighter + 1
      · exact same ▸ derivation
      · exact tighterIH derivation.tighter (by omega)

theorem Infix.implication (derivation : Infix 0 tokens formula) : Infix 1 tokens formula := by
  cases derivation with
  | tighter inner => exact inner

theorem Infix.read_eq (derivation : Infix 1 tokens formula) :
    Formula.read tokens = .ok formula := by
  obtain ⟨state, read, reduces⟩ := derivation.reads [] [] yields_nil
  exact Formula.read_iff.mpr ⟨state, read, finish_iff.mpr (reduces 0 (Nat.zero_le 1))⟩

/-- An infix expression is parsed, and as its own formula. -/
theorem parse_of_infix (derivation : Infix 1 tokens formula) :
    Formula.parse tokens = .ok formula :=
  Formula.parse_iff.mpr derivation.read_eq

/-- Keywords in letters of any case, and a group more than is needed. -/
theorem parse_redundant_groups :
    Infix 1 ["not", "(", "(", "a", ")", ")", "And", "b", "relevantly_implies", "c", "OR", "d"]
        (.implies (.and (.not (.atom "a")) (.atom "b")) (.or (.atom "c") (.atom "d"))) ∧
      Formula.parse
          ["not", "(", "(", "a", ")", ")", "And", "b", "relevantly_implies", "c", "OR", "d"] =
        .ok (.implies (.and (.not (.atom "a")) (.atom "b")) (.or (.atom "c") (.atom "d"))) := by
  have named : ∀ name ∈ ["a", "b", "c", "d"], Token.IsOperand name := by decide
  have operand : ∀ name ∈ ["a", "b", "c", "d"], Infix 5 [name] (.atom name) :=
    fun name member => .operand (named name member)
  have group : Infix 5 ["(", "a", ")"] (.atom "a") :=
    .group ((operand "a" (by decide)).loosen (by decide))
  have negation : Infix 4 ["not", "(", "(", "a", ")", ")"] (.not (.atom "a")) :=
    .not (by decide) (.group (group.loosen (by decide)))
  have conjunction : Infix 3 ["not", "(", "(", "a", ")", ")", "And", "b"]
      (.and (.not (.atom "a")) (.atom "b")) :=
    .and negation.tighter (by decide) ((operand "b" (by decide)).loosen (by decide))
  have disjunction : Infix 2 ["c", "OR", "d"] (.or (.atom "c") (.atom "d")) :=
    .or ((operand "c" (by decide)).loosen (by decide)) (by decide)
      ((operand "d" (by decide)).loosen (by decide))
  have keyword : Text.upper "relevantly_implies" = "RELEVANTLY_IMPLIES" := by decide
  have whole := Infix.implies (conjunction.loosen (by decide)) keyword disjunction
  exact ⟨whole, parse_of_infix whole⟩

end Connexive
