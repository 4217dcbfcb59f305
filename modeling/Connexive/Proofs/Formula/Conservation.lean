import Connexive.Proofs.Formula.Names

namespace Connexive

/-! Reading loses, doubles and invents nothing. At every moment the keywords read so far are the
connectives of the operands together with those that still wait, and the parentheses that wait are
the groups left open. Nothing is asked about the order of the tokens, for lists that are no infix
expressions are read as well.
-/

/-- The connectives that the keywords among the tokens write, in order. -/
def keywordsOf (tokens : List String) : List Connective :=
  tokens.filterMap Connective.ofToken?

theorem keywordsOf_append (before after : List String) :
    keywordsOf (before ++ after) = keywordsOf before ++ keywordsOf after :=
  List.filterMap_append

theorem keywordsOf_keyword {token : String} {op : Connective}
    (keyword : Text.upper token = op.keyword) : keywordsOf [token] = [op] := by
  simp [keywordsOf, Connective.ofToken?_eq_some_iff.mpr keyword]

theorem keywordsOf_operand {token : String} (isOperand : Token.IsOperand token) :
    keywordsOf [token] = [] := by
  simp [keywordsOf, Connective.ofToken?_eq_none_iff.mpr isOperand.notKeyword]

theorem keywordsOf_opening : keywordsOf ["("] = [] := rfl

theorem keywordsOf_closing : keywordsOf [")"] = [] := rfl

theorem count_keywordsOf (tokens : List String) (op : Connective) :
    (keywordsOf tokens).count op = tokens.countP (Text.upper · = op.keyword) := by
  rw [List.count, keywordsOf, List.countP_filterMap]
  refine List.countP_congr fun token _ => ?_
  rw [decide_eq_true_iff, ← Connective.ofToken?_eq_some_iff]
  cases Connective.ofToken? token <;> simp

/-- The connectives of a formula, one for each of its nodes. -/
def Formula.connectives : Formula → List Connective
  | atom _ => []
  | not inner => .not :: inner.connectives
  | and left right => .and :: (left.connectives ++ right.connectives)
  | or left right => .or :: (left.connectives ++ right.connectives)
  | implies left right => .implies :: (left.connectives ++ right.connectives)

/-- A formula has one atom more than connectives of two operands. -/
theorem Formula.length_names (formula : Formula) :
    formula.names.length = formula.connectives.countP (· ≠ .not) + 1 := by
  induction formula with
  | atom name => rfl
  | not inner innerIH => simpa [names, connectives] using innerIH
  | and left right leftIH rightIH | or left right leftIH rightIH
  | implies left right leftIH rightIH =>
      simp only [names, connectives, List.length_append, leftIH, rightIH, List.countP_cons,
        List.countP_append]
      simp
      omega

def Pending.connective? : Pending → Option Connective
  | paren => none
  | connective op => some op

namespace ParseState

variable {state next : ParseState} {operands combined : List Formula} {pending : List Pending}
  {bound : Nat} {op : Connective} {token : String} {tokens : List String}

def connectivesOf (operands : List Formula) : List Connective :=
  operands.flatMap Formula.connectives

theorem connectivesOf_cons (formula : Formula) (operands : List Formula) :
    connectivesOf (formula :: operands) = formula.connectives ++ connectivesOf operands :=
  List.flatMap_cons

/-- The connectives applied so far and those that wait. -/
def connectives (state : ParseState) : List Connective :=
  connectivesOf state.operands ++ state.pending.filterMap Pending.connective?

theorem length_namesOf (operands : List Formula) :
    (namesOf operands).length =
      (connectivesOf operands).countP (· ≠ .not) + operands.length := by
  induction operands with
  | nil => rfl
  | cons formula operands operandsIH =>
      rw [namesOf_cons, List.length_append, operandsIH, formula.length_names, connectivesOf_cons,
        List.countP_append, List.length_cons]
      omega

theorem Combined.connectives_perm (applied : Combined op operands combined) :
    (connectivesOf combined).Perm (op :: connectivesOf operands) := by
  cases applied with
  | not => exact .refl _
  | and | or | implies =>
      -- The last operand stands on top, so the sides of the compound are the other way round.
      simp only [connectivesOf_cons, Formula.connectives, List.cons_append]
      refine .cons _ ?_
      rw [← List.append_assoc]
      exact List.perm_append_comm.append_right _

theorem reduce_connectives (reduced : reduce bound operands pending = .ok next) :
    next.connectives.Perm (connectives ⟨operands, pending⟩) := by
  have kept := reduce_invariant
    (motive := fun now waiting => (connectives ⟨now, waiting⟩).Perm (connectives ⟨operands, pending⟩))
    (fun applied same => (applied.connectives_perm.append_right _).trans
      (List.perm_middle.symm.trans same)) (.refl _) reduced
  exact kept.1

theorem reduce_parens (reduced : reduce bound operands pending = .ok next) :
    next.pending.count .paren = pending.count .paren := by
  have kept := reduce_invariant
    (motive := fun _ waiting => waiting.count .paren = pending.count .paren)
    (fun _ same => by simpa using same) rfl reduced
  exact kept.1

theorem Stepped.connectives_perm (stepped : Stepped state token next) :
    next.connectives.Perm (state.connectives ++ keywordsOf [token]) := by
  cases stepped with
  | operand isOperand =>
      rw [keywordsOf_operand isOperand, List.append_nil]
      exact .refl _
  | opening =>
      rw [keywordsOf_opening, List.append_nil]
      exact .refl _
  | closing reduced =>
      rw [keywordsOf_closing, List.append_nil]
      have kept := reduce_connectives reduced
      exact kept
  | connective keyword reduced =>
      rw [keywordsOf_keyword keyword]
      have kept := reduce_connectives reduced
      exact List.perm_middle.trans ((kept.cons _).trans (List.perm_append_singleton _ _).symm)

theorem Stepped.parens (stepped : Stepped state token next) :
    [token].count ")" + next.pending.count .paren =
      [token].count "(" + state.pending.count .paren := by
  cases stepped with
  | operand isOperand => simp [isOperand.notOpening, isOperand.notClosing]
  | opening => simp [Nat.add_comm]
  | closing reduced =>
      have kept := reduce_parens reduced
      simp at kept ⊢
      omega
  | @connective _ op _ _ keyword reduced =>
      have kept := reduce_parens reduced
      have notOpening : token ≠ "(" := by
        rintro rfl
        revert keyword
        cases op <;> decide
      have notClosing : token ≠ ")" := by
        rintro rfl
        revert keyword
        cases op <;> decide
      simpa [notOpening, notClosing] using kept

theorem steps_connectives (read : start.steps tokens = .ok next) :
    next.connectives.Perm (keywordsOf tokens) := by
  have kept : next.connectives.Perm (keywordsOf ([] ++ tokens)) :=
    steps_invariant (motive := fun state before => state.connectives.Perm (keywordsOf before))
      (fun stepped same => by
        rw [keywordsOf_append]
        exact stepped.connectives_perm.trans (same.append_right _)) (.refl _) read
  exact kept

theorem steps_parens (read : start.steps tokens = .ok next) :
    tokens.count ")" + next.pending.count .paren = tokens.count "(" := by
  have kept : ([] ++ tokens).count ")" + next.pending.count .paren = ([] ++ tokens).count "(" :=
    steps_invariant (motive := fun state before =>
        before.count ")" + state.pending.count .paren = before.count "(")
      (fun stepped same => by
        have change := stepped.parens
        rw [List.count_append, List.count_append]
        omega) rfl read
  exact kept

end ParseState

/-- Every parenthesis has its partner: no group is closed before it is opened, and none stays
open. -/
structure Balanced (tokens : List String) : Prop where
  opened : ∀ before, before <+: tokens → before.count ")" ≤ before.count "("
  closed : tokens.count ")" = tokens.count "("

theorem balanced_iff {tokens : List String} :
    Balanced tokens ↔
      (∀ length ≤ tokens.length,
        (tokens.take length).count ")" ≤ (tokens.take length).count "(") ∧
      tokens.count ")" = tokens.count "(" := by
  constructor
  · rintro ⟨opened, closed⟩
    exact ⟨fun length _ => opened _ (List.take_prefix length tokens), closed⟩
  · rintro ⟨opened, closed⟩
    refine ⟨fun before leads => ?_, closed⟩
    rw [List.prefix_iff_eq_take.mp leads]
    exact opened _ leads.length_le

instance (tokens : List String) : Decidable (Balanced tokens) :=
  decidable_of_iff _ balanced_iff.symm

namespace ParseState

variable {next settled : ParseState} {operands : List Formula} {tokens : List String}

theorem steps_opened (read : start.steps tokens = .ok next) :
    ∀ before, before <+: tokens → before.count ")" ≤ before.count "(" := by
  rintro before ⟨after, rfl⟩
  obtain ⟨middle, walked, _⟩ := steps_append_iff.mp read
  have parens := steps_parens walked
  omega

/-- What the whole list leaves when nothing is pending any more: its operands, all its keywords
applied to them, and every group closed. -/
structure Settled (operands : List Formula) (tokens : List String) : Prop where
  names : namesOf operands = operandsOf tokens
  connectives : (connectivesOf operands).Perm (keywordsOf tokens)
  balanced : Balanced tokens

theorem Settled.of_steps (read : start.steps tokens = .ok next)
    (reduced : reduce 0 next.operands next.pending = .ok ⟨operands, []⟩) :
    Settled operands tokens := by
  refine ⟨?_, ?_, steps_opened read, ?_⟩
  · have kept : namesOf operands = namesOf next.operands := reduce_names reduced
    exact kept.trans (steps_names read)
  · have kept := (reduce_connectives reduced).trans (steps_connectives read)
    simpa [ParseState.connectives] using kept
  · have noneOpen : 0 = next.pending.count .paren := reduce_parens reduced
    have parens := steps_parens read
    omega

end ParseState

variable {tokens : List String} {formula : Formula}

theorem Formula.settled_of_read (read : Formula.read tokens = .ok formula) :
    ParseState.Settled [formula] tokens := by
  obtain ⟨state, walked, finished⟩ := Formula.read_iff.mp read
  exact .of_steps walked (ParseState.finish_iff.mp finished)

/-- A formula that is parsed has the operands of the list as its atoms, in order, and a connective
for each of the keywords. The parentheses of the list are balanced. -/
theorem parse_conserves (parsed : Formula.parse tokens = .ok formula) :
    formula.names = operandsOf tokens ∧
      (∀ op : Connective,
        formula.connectives.count op = tokens.countP (Text.upper · = op.keyword)) ∧
      Balanced tokens ∧
      ∀ topic, topic ∈ formula.topics ↔
        ∃ token ∈ tokens, Token.IsOperand token ∧ Text.lower token = topic := by
  have read := Formula.parse_iff.mp parsed
  have settled := Formula.settled_of_read read
  have names := Formula.names_of_read read
  refine ⟨names, fun op => ?_, settled.balanced, fun topic => ?_⟩
  · have perm : formula.connectives.Perm (keywordsOf tokens) := by
      simpa [ParseState.connectivesOf] using settled.connectives
    rw [perm.count_eq, count_keywordsOf]
  · simp only [Formula.topics, names, List.mem_map, mem_operandsOf_iff, and_assoc]

/-- Each connective stands behind its operands, one of them inside a group. -/
theorem parse_conserves_behind_operands :
    Formula.parse ["B", "(", "a", "not", ")", "Or"] = .ok (.or (.atom "B") (.not (.atom "a"))) ∧
      (Formula.or (.atom "B") (.not (.atom "a"))).names =
        operandsOf ["B", "(", "a", "not", ")", "Or"] ∧
      (∀ op : Connective, (Formula.or (.atom "B") (.not (.atom "a"))).connectives.count op =
        ["B", "(", "a", "not", ")", "Or"].countP (Text.upper · = op.keyword)) ∧
      Balanced ["B", "(", "a", "not", ")", "Or"] := by
  have parsed : Formula.parse ["B", "(", "a", "not", ")", "Or"] =
      .ok (.or (.atom "B") (.not (.atom "a"))) := by rfl
  obtain ⟨names, counts, balanced, _⟩ := parse_conserves parsed
  exact ⟨parsed, names, counts, balanced⟩

end Connexive
