import Connexive.Proofs.Formula.Conservation
import Connexive.Proofs.Formula.Context
import Connexive.Proofs.Formula.Lockstep

namespace Connexive

/-! A group in the place of an operand. Reading a list between parentheses leaves what waits below
alone and pushes the one formula of the list, as an operand pushes its atom. From there on the two
readings take the same turns, and their operands differ in one place, which the names before it
tell.
-/

namespace ParseState

variable {next : ParseState} {operands combined : List Formula} {pending : List Pending}
  {bound : Nat} {op : Connective} {tokens : List String} {token : String} {formula : Formula}

theorem Combined.above (applied : Combined op operands combined) (base : List Formula) :
    Combined op (operands ++ base) (combined ++ base) := by
  cases applied <;> constructor

/-- An open parenthesis ends the reduction as the bottom of the stack does. -/
theorem reduce_above (reduced : reduce bound operands pending = .ok next) (base : List Formula)
    (under : List Pending) :
    reduce bound (operands ++ base) (pending ++ .paren :: under) =
      .ok ⟨next.operands ++ base, next.pending ++ .paren :: under⟩ := by
  induction pending generalizing operands with
  | nil =>
      cases reduced
      rfl
  | cons top pending pendingIH =>
      cases top with
      | paren =>
          cases reduced
          rfl
      | connective op =>
          by_cases tight : bound ≤ op.precedence
          · cases applied : combine op operands with
            | error cause =>
                rw [reduce, if_pos tight, applied] at reduced
                contradiction
            | ok combined =>
                rw [reduce, if_pos tight, applied] at reduced
                rw [List.cons_append, reduce_connective tight ((combine_iff.mp applied).above base)]
                exact pendingIH reduced
          · rw [reduce, if_neg tight] at reduced
            cases reduced
            exact reduce_of_yields (Nat.lt_of_not_le tight)

theorem Stepped.above {state : ParseState} (stepped : Stepped state token next)
    (base : List Formula) (under : List Pending) :
    Stepped ⟨state.operands ++ base, state.pending ++ .paren :: under⟩ token
      ⟨next.operands ++ base, next.pending ++ .paren :: under⟩ := by
  cases stepped with
  | operand isOperand => exact .operand isOperand
  | opening => exact .opening
  | closing reduced => exact .closing (reduce_above reduced base under)
  | connective keyword reduced => exact .connective keyword (reduce_above reduced base under)

/-- What a list does on empty stacks it does above any open parenthesis. -/
theorem steps_above (read : start.steps tokens = .ok next) (base : List Formula)
    (under : List Pending) :
    steps ⟨base, .paren :: under⟩ tokens =
      .ok ⟨next.operands ++ base, next.pending ++ .paren :: under⟩ := by
  have kept : steps ⟨base, .paren :: under⟩ ([] ++ tokens) =
      .ok ⟨next.operands ++ base, next.pending ++ .paren :: under⟩ :=
    steps_invariant (motive := fun state before => steps ⟨base, .paren :: under⟩ before =
        .ok ⟨state.operands ++ base, state.pending ++ .paren :: under⟩)
      (fun stepped walked => by
        rw [steps_append walked, (stepped.above base under).steps_cons]
        rfl) rfl read
  exact kept

end ParseState

open ParseState

/-- The tokens of a group. -/
def groupOf (tokens : List String) : List String :=
  "(" :: (tokens ++ [")"])

variable {tokens before after earlier : List String} {name : String}
  {part other formula : Formula}

theorem steps_group (read : Formula.read tokens = .ok part) (operands : List Formula)
    (pending : List Pending) (rest : List String) :
    steps ⟨operands, pending⟩ (groupOf tokens ++ rest) = steps ⟨part :: operands, pending⟩ rest := by
  obtain ⟨state, walked, finished⟩ := Formula.read_iff.mp read
  have closes : Stepped ⟨state.operands ++ operands, state.pending ++ .paren :: pending⟩ ")"
      ⟨part :: operands, pending⟩ :=
    .closing (reduce_above (finish_iff.mp finished) operands pending)
  rw [groupOf, List.cons_append, Stepped.opening.steps_cons, List.append_assoc,
    steps_append (steps_above walked operands pending)]
  exact closes.steps_cons rest

namespace Formula.Context

/-- The names of the atoms that stand before the hole. -/
def namesBefore : Context → List String
  | hole => []
  | not inner => inner.namesBefore
  | andLeft left _ | orLeft left _ | impliesLeft left _ => left.namesBefore
  | andRight left right | orRight left right | impliesRight left right =>
    left.names ++ right.namesBefore

end Formula.Context

open Formula (Context)

/-- How a connective of two operands is applied, with a hole in neither of them, in the left one or
in the right one. -/
structure Joins (op : Connective) (compound : Formula → Formula → Formula)
    (onLeft : Context → Formula → Context) (onRight : Formula → Context → Context) : Prop where
  binary : op ≠ .not
  combines : ∀ left right rest,
    combine op (right :: left :: rest) = .ok (compound left right :: rest)
  fillLeft : ∀ context right part,
    (onLeft context right).fill part = compound (context.fill part) right
  fillRight : ∀ left context part,
    (onRight left context).fill part = compound left (context.fill part)
  beforeLeft : ∀ context right, (onLeft context right).namesBefore = context.namesBefore
  beforeRight : ∀ left context,
    (onRight left context).namesBefore = left.names ++ context.namesBefore

theorem combine_of_few {op : Connective} (binary : op ≠ .not) (operands : List Formula)
    (few : operands.length < 2) : combine op operands = .error (.missingOperand op) := by
  match operands with
  | [] => cases op <;> rfl
  | [only] =>
      cases op with
      | not => contradiction
      | and | or | implies => rfl

theorem joins_and : Joins .and .and .andLeft .andRight :=
  ⟨by decide, fun _ _ _ => rfl, fun _ _ _ => rfl, fun _ _ _ => rfl, fun _ _ => rfl,
    fun _ _ => rfl⟩

theorem joins_or : Joins .or .or .orLeft .orRight :=
  ⟨by decide, fun _ _ _ => rfl, fun _ _ _ => rfl, fun _ _ _ => rfl, fun _ _ => rfl,
    fun _ _ => rfl⟩

theorem joins_implies : Joins .implies .implies .impliesLeft .impliesRight :=
  ⟨by decide, fun _ _ _ => rfl, fun _ _ _ => rfl, fun _ _ _ => rfl, fun _ _ => rfl,
    fun _ _ => rfl⟩

/-- Stacks that differ in one place, where the one has a part and the other has another. Before it
stand the names in `earlier`, and what is on top of its operand stands behind it. -/
inductive Swapped (part other : Formula) (earlier : List String) :
    List Formula → List Formula → Prop
  | place (above : List Formula) (context : Context) (below : List Formula)
      (named : namesOf below ++ context.namesBefore = earlier) :
      Swapped part other earlier (above ++ context.fill part :: below)
        (above ++ context.fill other :: below)

namespace Swapped

variable {first second : List Formula}

theorem push (swapped : Swapped part other earlier first second) (formula : Formula) :
    Swapped part other earlier (formula :: first) (formula :: second) := by
  cases swapped with
  | place above context below named => exact .place (formula :: above) context below named

theorem alongside (tokens : List String) :
    List.Forall₂ (Alongside (Swapped part other earlier)) tokens tokens :=
  List.forall₂_same.mpr fun token _ => .same (fun swapped => swapped.push _) token

theorem combine_not (swapped : Swapped part other earlier first second) :
    Agree (Swapped part other earlier) (combine .not first) (combine .not second) := by
  cases swapped with
  | place above context below named =>
      match above with
      | [] => exact .results (.place [] (.not context) below named)
      | top :: above => exact .results (.place (.not top :: above) context below named)

theorem combine_binary {op : Connective} {compound : Formula → Formula → Formula}
    {onLeft : Context → Formula → Context} {onRight : Formula → Context → Context}
    (joins : Joins op compound onLeft onRight)
    (swapped : Swapped part other earlier first second) :
    Agree (Swapped part other earlier) (combine op first) (combine op second) := by
  cases swapped with
  | place above context below named =>
      match above, below with
      | [], [] =>
          rw [combine_of_few joins.binary _ (by simp), combine_of_few joins.binary _ (by simp)]
          exact .refusals _
      | [], left :: below =>
          have place : Swapped part other earlier _ _ :=
            .place [] (onRight left context) below (by
              rw [joins.beforeRight, ← List.append_assoc, ← namesOf_cons, named])
          rw [joins.fillRight, joins.fillRight] at place
          rw [List.nil_append, List.nil_append, joins.combines, joins.combines]
          exact .results place
      | [right], below =>
          have place : Swapped part other earlier _ _ :=
            .place [] (onLeft context right) below (by rw [joins.beforeLeft, named])
          rw [joins.fillLeft, joins.fillLeft] at place
          rw [List.singleton_append, List.singleton_append, joins.combines, joins.combines]
          exact .results place
      | right :: left :: above, below =>
          simp only [List.cons_append, joins.combines]
          exact .results (.place (compound left right :: above) context below named)

theorem kept : KeptByCombining (Swapped part other earlier) where
  sameLength swapped := by
    cases swapped with
    | place above context below named => simp
  combine {op} _ _ swapped := by
    cases op with
    | not => exact swapped.combine_not
    | and => exact swapped.combine_binary joins_and
    | or => exact swapped.combine_binary joins_or
    | implies => exact swapped.combine_binary joins_implies

theorem of_single {replaced : Formula} (swapped : Swapped part other earlier [formula] [replaced]) :
    ∃ context : Context, context.namesBefore = earlier ∧
      formula = context.fill part ∧ replaced = context.fill other := by
  generalize single : [formula] = first at swapped
  generalize otherSingle : [replaced] = second at swapped
  cases swapped with
  | place above context below named =>
      match above with
      | [] =>
          cases single
          cases otherSingle
          exact ⟨context, named, rfl, rfl⟩
      | top :: above => simp at single

end Swapped

/-- A list with a group in the place of one of its operands is read as the list itself is, but for
the atom of that operand. -/
theorem read_agree (operand : Token.IsOperand name) (inner : Formula.read tokens = .ok part)
    (before after : List String) :
    Agree (fun formula replaced => ∃ context : Context, context.namesBefore = operandsOf before ∧
        formula = context.fill (.atom name) ∧ replaced = context.fill part)
      (Formula.read (before ++ name :: after))
      (Formula.read (before ++ (groupOf tokens ++ after))) := by
  rw [Formula.read_of_ne_nil (by simp), Formula.read_of_ne_nil (by simp [groupOf]),
    steps_append_eq, steps_append_eq]
  cases walked : start.steps before with
  | error cause => exact .refusals cause
  | ok state =>
      have pushed : Stepped state name ⟨.atom name :: state.operands, state.pending⟩ :=
        .operand operand
      have swapped : Swapped (.atom name) part (operandsOf before)
          (.atom name :: state.operands) (part :: state.operands) :=
        .place [] .hole state.operands (by
          rw [steps_names walked, Context.namesBefore, List.append_nil])
      have inStep : InStep (Swapped (.atom name) part (operandsOf before))
          ⟨.atom name :: state.operands, state.pending⟩ ⟨part :: state.operands, state.pending⟩ :=
        ⟨swapped, rfl⟩
      rw [Except.bind, Except.bind, pushed.steps_cons, steps_group inner]
      exact (steps_finish_agree Swapped.kept (Swapped.alongside after) inStep).imp
        Swapped.of_single

theorem read_group (inner : Formula.read tokens = .ok part) :
    Formula.read (groupOf tokens) = .ok part := by
  have walked := steps_group inner [] [] []
  rw [List.append_nil] at walked
  exact Formula.read_iff.mpr ⟨⟨[part], []⟩, walked, rfl⟩

/-- A group in the place of an operand changes the formula only where the atom of that operand
stands, behind the atoms of the operands before it. Where the list is refused, it is still refused
for the same cause. -/
theorem parse_group_for_operand (operand : Token.IsOperand name)
    (inner : Formula.parse tokens = .ok part) (before after : List String) :
    (∀ formula, Formula.parse (before ++ name :: after) = .ok formula →
      ∃ context : Context, context.namesBefore = operandsOf before ∧
        formula = context.fill (.atom name) ∧
        Formula.parse (before ++ (groupOf tokens ++ after)) = .ok (context.fill part)) ∧
    (∀ error, Formula.parse (before ++ name :: after) = .error error →
      Formula.parse (before ++ (groupOf tokens ++ after)) =
        .error ⟨error.cause, before ++ (groupOf tokens ++ after)⟩) ∧
    Formula.parse (groupOf tokens) = .ok part := by
  have read := Formula.parse_iff.mp inner
  have agree := (read_agree operand read before after).cases
  refine ⟨fun formula parsed => ?_, fun error refused => ?_,
    Formula.parse_iff.mpr (read_group read)⟩
  · have given := Formula.parse_iff.mp parsed
    rcases agree with ⟨first, replaced, same, otherRead, context, place, rfl, rfl⟩ |
      ⟨cause, otherwise, _⟩
    · cases given.symm.trans same
      exact ⟨context, place, rfl, Formula.parse_iff.mpr otherRead⟩
    · cases given.symm.trans otherwise
  · have given := (Formula.parse_error_iff.mp refused).1
    rcases agree with ⟨first, replaced, otherwise, _⟩ | ⟨cause, same, otherRefused⟩
    · cases given.symm.trans otherwise
    · cases given.symm.trans same
      exact Formula.parse_error_iff.mpr ⟨otherRefused, rfl⟩

/-- Below a negation, a group whose connective stands behind its operands. -/
theorem parse_group_for_negated_operand :
    Token.IsOperand "a" ∧
      Formula.parse ["x", "y", "or"] = .ok (.or (.atom "x") (.atom "y")) ∧
      Formula.parse (["A", "and", "not"] ++ "a" :: []) =
        .ok (.and (.atom "A") (.not (.atom "a"))) ∧
      ∃ context : Context, context.namesBefore = operandsOf ["A", "and", "not"] ∧
        .and (.atom "A") (.not (.atom "a")) = context.fill (.atom "a") ∧
        Formula.parse (["A", "and", "not"] ++ (groupOf ["x", "y", "or"] ++ [])) =
          .ok (context.fill (.or (.atom "x") (.atom "y"))) := by
  have operand : Token.IsOperand "a" := by decide
  have inner : Formula.parse ["x", "y", "or"] = .ok (.or (.atom "x") (.atom "y")) := by rfl
  have whole : Formula.parse (["A", "and", "not"] ++ "a" :: []) =
      .ok (.and (.atom "A") (.not (.atom "a"))) := by rfl
  have replaced := (parse_group_for_operand operand inner ["A", "and", "not"] []).1 _ whole
  exact ⟨operand, inner, whole, replaced⟩

end Connexive
