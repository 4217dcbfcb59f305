import Connexive.Proofs.Formula.Placement

namespace Connexive

/-! What the two stacks stand for while tokens are read in order. Every waiting connective has its
left operand below it, spelled by a run of the tokens, so that the tokens read so far can be put
together again from the stacks. Applying a connective moves its tokens over to the last operand and
loses none.
-/

open ParseState

theorem Infix.combines {before after : List String} {token : String} {left right : Formula}
    {op : Connective} (binary : op ≠ .not) (first : Infix op.precedence before left)
    (keyword : Text.upper token = op.keyword) (second : Infix (op.precedence + 1) after right) :
    ∃ compound, (∀ rest, Combined op (right :: left :: rest) (compound :: rest)) ∧
      Infix op.precedence (before ++ token :: after) compound := by
  cases op with
  | not => contradiction
  | and => exact ⟨_, fun _ => .and, .and first keyword second⟩
  | or => exact ⟨_, fun _ => .or, .or first keyword second⟩
  | implies => exact ⟨_, fun _ => .implies, .implies first keyword second⟩

namespace ParseState

/-- The tokens behind stacks that wait for an operand. A connective of two operands stands on its
left one, and waits only above connectives that bind less tight. -/
inductive Spelled : List Formula → List Pending → List String → Prop
  | start : Spelled [] [] []
  | paren {operands : List Formula} {pending : List Pending} {before : List String}
      (outer : Spelled operands pending before) :
      Spelled operands (.paren :: pending) (before ++ ["("])
  | not {operands : List Formula} {pending : List Pending} {before : List String} {token : String}
      (outer : Spelled operands pending before) (yields : Yields 4 pending)
      (keyword : Text.upper token = "NOT") :
      Spelled operands (.connective .not :: pending) (before ++ [token])
  | binary {operands : List Formula} {pending : List Pending} {before tokens : List String}
      {token : String} {left : Formula} {op : Connective}
      (outer : Spelled operands pending before) (yields : Yields op.precedence pending)
      (binary : op ≠ .not) (first : Infix op.precedence tokens left)
      (keyword : Text.upper token = op.keyword) :
      Spelled (left :: operands) (.connective op :: pending) (before ++ (tokens ++ [token]))

/-- The tokens behind stacks whose last operand is complete, as an expression of a level that what
waits below it lets through. -/
inductive Joined (level : Nat) : ParseState → List String → Prop
  | intro {operands : List Formula} {pending : List Pending} {before tokens : List String}
      {last : Formula} (spelled : Spelled operands pending before)
      (expression : Infix level tokens last) (yields : Yields level pending) :
      Joined level ⟨last :: operands, pending⟩ (before ++ tokens)

variable {state next : ParseState} {operands : List Formula} {pending : List Pending}
  {before tokens : List String} {last : Formula} {level bound : Nat}

theorem Spelled.reduce_last (spelled : Spelled operands pending before)
    (expression : Infix level tokens last) (yields : Yields level pending) (le : bound ≤ level) :
    ∃ next, reduce bound (last :: operands) pending = .ok next ∧
      Joined bound next (before ++ tokens) := by
  -- By induction on the stacks: each connective applied lengthens the last expression and loosens its
  -- level, so both stay open.
  induction spelled generalizing level tokens last with
  | start =>
      exact ⟨_, rfl, .intro .start (expression.loosen le) yields_nil⟩
  | paren outer _ =>
      exact ⟨_, rfl, .intro (.paren outer) (expression.loosen le) yields_paren⟩
  | @not operands pending before token outer outerYields keyword outerIH =>
      by_cases tight : bound ≤ Connective.not.precedence
      · have negation : Infix 4 (token :: tokens) (.not last) :=
          .not keyword (expression.loosen yields)
        obtain ⟨next, reduced, joined⟩ := outerIH negation outerYields tight
        refine ⟨next, (reduce_connective tight .not).trans reduced, ?_⟩
        rwa [List.append_assoc]
      · have below : Yields bound (.connective .not :: pending) := Nat.lt_of_not_le tight
        exact ⟨_, reduce_of_yields below,
          .intro (.not outer outerYields keyword) (expression.loosen le) below⟩
  | @binary operands pending before leftTokens token left op outer outerYields binary first keyword
      outerIH =>
      by_cases tight : bound ≤ op.precedence
      · obtain ⟨compound, combined, whole⟩ :=
          Infix.combines binary first keyword (expression.loosen yields)
        obtain ⟨next, reduced, joined⟩ := outerIH whole outerYields tight
        refine ⟨next, (reduce_connective tight (combined operands)).trans reduced, ?_⟩
        simpa only [List.append_assoc, List.singleton_append] using joined
      · have below : Yields bound (.connective op :: pending) := Nat.lt_of_not_le tight
        exact ⟨_, reduce_of_yields below,
          .intro (.binary outer outerYields binary first keyword) (expression.loosen le) below⟩

/-- Applying connectives keeps the tokens, and never fails on stacks like these. -/
theorem Joined.reduces (joined : Joined level state tokens) (le : bound ≤ level) :
    ∃ next, reduce bound state.operands state.pending = .ok next ∧ Joined bound next tokens := by
  cases joined with
  | intro spelled expression yields => exact spelled.reduce_last expression yields le

/-- The stacks at a place, and the tokens that led there. -/
inductive Reached : Place → ParseState → List String → Prop
  | operand {operands : List Formula} {pending : List Pending} {before : List String}
      (spelled : Spelled operands pending before) (yields : Yields 4 pending) :
      Reached .operand ⟨operands, pending⟩ before
  | negated {operands : List Formula} {pending : List Pending} {before : List String}
      (spelled : Spelled operands pending before) : Reached .negated ⟨operands, pending⟩ before
  | joint {state : ParseState} {before : List String} (joined : Joined 5 state before) :
      Reached .joint state before

theorem Spelled.reached_operand (spelled : Spelled operands pending before) {token : String}
    (isOperand : Token.IsOperand token) :
    Reached .joint ⟨.atom token :: operands, pending⟩ (before ++ [token]) :=
  .joint (.intro spelled (.operand isOperand) (yields_five pending))

theorem Spelled.reached_opening (spelled : Spelled operands pending before) :
    Reached .operand ⟨operands, .paren :: pending⟩ (before ++ ["("]) :=
  .operand (.paren spelled) yields_paren

theorem Joined.reached_connective {op : Connective} {token : String}
    (joined : Joined op.precedence next before) (binary : op ≠ .not)
    (keyword : Text.upper token = op.keyword) :
    Reached .operand ⟨next.operands, .connective op :: next.pending⟩ (before ++ [token]) := by
  have looser : op.precedence < 4 := by
    cases op <;> first | contradiction | decide
  cases joined with
  | intro spelled expression yields =>
      rw [List.append_assoc]
      exact .operand (.binary spelled yields binary expression keyword) looser

theorem Joined.reached_closing (joined : Joined 5 state before)
    (reduces : reduce 0 state.operands state.pending = .ok ⟨operands, .paren :: pending⟩) :
    Reached .joint ⟨operands, pending⟩ (before ++ [")"]) := by
  obtain ⟨reduced, same, whole⟩ := joined.reduces (Nat.zero_le 5)
  cases reduces.symm.trans same
  cases whole with
  | @intro _ _ outer tokens last spelled expression yields =>
      cases spelled with
      | @paren operands pending before spelled =>
          have group := Joined.intro spelled (.group expression.implication) (yields_five pending)
          simpa only [List.append_assoc, List.cons_append, List.nil_append] using
            Reached.joint group

/-- A token that may stand at a place, and is read there, leads to the place behind it. -/
theorem Reached.step {place following : Place} {token : String}
    (reached : Reached place state before)
    (follows : place.after (Token.ofText token) = some following)
    (stepped : Stepped state token next) : Reached following next (before ++ [token]) := by
  cases stepped with
  | operand isOperand =>
      rw [(Token.Written.operand isOperand).ofText_eq] at follows
      cases reached with
      | operand spelled _ | negated spelled =>
          cases follows
          exact spelled.reached_operand isOperand
      | joint _ => contradiction
  | opening =>
      rw [Token.Written.opening.ofText_eq] at follows
      cases reached with
      | operand spelled _ | negated spelled =>
          cases follows
          exact spelled.reached_opening
      | joint _ => contradiction
  | closing reduces =>
      rw [Token.Written.closing.ofText_eq] at follows
      cases reached with
      | operand _ _ | negated _ => contradiction
      | joint joined =>
          cases follows
          exact joined.reached_closing reduces
  | @connective _ op _ _ keyword reduced =>
      rw [(Token.Written.connective keyword).ofText_eq] at follows
      cases reached with
      | operand spelled yields =>
          cases op with
          | not =>
              cases follows
              cases (reduce_of_yields yields).symm.trans reduced
              exact .negated (.not spelled yields keyword)
          | _ => contradiction
      | negated _ => cases op <;> contradiction
      | joint joined =>
          by_cases binary : op = .not
          · subst binary
            contradiction
          · rw [Place.after, if_neg binary] at follows
            cases follows
            obtain ⟨settled, same, remaining⟩ :=
              joined.reduces (Nat.le_of_lt (precedence_lt_five op))
            cases reduced.symm.trans same
            exact remaining.reached_connective binary keyword

theorem Joined.finish (joined : Joined 5 state tokens) {formula : Formula}
    (finished : state.finish = .ok formula) : Infix 1 tokens formula := by
  obtain ⟨reduced, same, whole⟩ := joined.reduces (Nat.zero_le 5)
  cases (finish_iff.mp finished).symm.trans same
  -- Nothing waits any more, so the one operand left is spelled by all the tokens.
  cases whole with
  | intro spelled expression _ =>
      cases spelled with
      | start => exact expression.implication

theorem Reached.finish {place : Place} (reached : Reached place state before)
    (ordered : place.accepts tokens = true) (read : state.steps tokens = .ok next)
    {formula : Formula} (finished : next.finish = .ok formula) :
    Infix 1 (before ++ tokens) formula := by
  induction tokens generalizing place state before with
  | nil =>
      have joint : place = .joint := of_decide_eq_true ordered
      subst joint
      cases read
      cases reached with
      | joint joined =>
          rw [List.append_nil]
          exact joined.finish finished
  | cons token rest restIH =>
      cases follows : place.after (Token.ofText token) with
      | none =>
          simp only [Place.accepts, follows] at ordered
          contradiction
      | some following =>
          cases stepped : state.step token with
          | error cause =>
              rw [steps, stepped] at read
              contradiction
          | ok middle =>
              have through := Stepped.of_step stepped
              rw [through.steps_cons] at read
              simp only [Place.accepts, follows] at ordered
              have spelled := restIH (reached.step follows through) ordered read
              rwa [List.append_assoc, List.singleton_append] at spelled

end ParseState

/-- A list that is read while its tokens stand in order is an infix expression of the formula. -/
theorem Infix.of_read {tokens : List String} {formula : Formula} (ordered : InOrder tokens)
    (read : Formula.read tokens = .ok formula) : Infix 1 tokens formula := by
  obtain ⟨state, walked, finished⟩ := Formula.read_iff.mp read
  exact (Reached.operand .start yields_nil).finish ordered walked finished

/-- Infix notation is what the parser accepts among the lists whose tokens stand in order. -/
theorem infix_iff_parse_and_inOrder (tokens : List String) (formula : Formula) :
    Infix 1 tokens formula ↔ Formula.parse tokens = .ok formula ∧ InOrder tokens := by
  rw [Formula.parse_iff]
  constructor
  · intro derivation
    exact ⟨derivation.read_eq, derivation.inOrder⟩
  · rintro ⟨read, ordered⟩
    exact .of_read ordered read

/-- The second negation is applied before its own operand is read, to the operand at hand. -/
theorem parse_stray_negation :
    Formula.parse ["b", "AND", "NOT", "NOT", "a"] =
        .ok (.and (.not (.atom "b")) (.not (.atom "a"))) ∧
      ∀ formula, ¬ Infix 1 ["b", "AND", "NOT", "NOT", "a"] formula := by
  refine ⟨by rfl, fun formula derivation => ?_⟩
  have misplaced : ¬ InOrder ["b", "AND", "NOT", "NOT", "a"] := by decide
  exact misplaced derivation.inOrder

end Connexive
