import Connexive.Proofs.Session.Question

namespace Connexive

/-! A session knows what its successful lines have told it, and nothing else. An object is there
exactly if one of them added it, and what is stated about it is what the last of them stated. Each
step keeps this up, whatever its line is, and so does a whole run.
-/

variable {session : Session} {line name predicate : String} {step : Step} {command : Command}

namespace Command

/-- The command of a line that succeeded. -/
def succeeded? (entry : String × Step) : Option Command :=
  if entry.2.reply.ok then ofLine? entry.1 else none

/-- What a command states about this predicate of this object, both in letters of any case. -/
def statement? (name predicate : String) : Command → Option Bool
  | stateFact object stated value =>
    if Text.lower object = Text.lower name ∧ Text.lower stated = Text.lower predicate then
      some value
    else none
  | _ => none

def lastStatement (name predicate : String) (history : List Command) : Option Bool :=
  (history.filterMap (statement? name predicate)).getLast?

theorem succeeded?_of_ok (ok : step.reply.ok = true) : succeeded? (line, step) = ofLine? line :=
  if_pos ok

theorem succeeded?_of_failed (failed : step.reply.ok = false) : succeeded? (line, step) = none :=
  if_neg (Bool.not_eq_true _ ▸ failed)

theorem statement?_of_reading (reads : command.writes = false) :
    statement? name predicate command = none := by
  cases command <;> first | contradiction | rfl

theorem lastStatement_append (before after : List Command) :
    lastStatement name predicate (before ++ after) =
      (lastStatement name predicate after).or (lastStatement name predicate before) := by
  rw [lastStatement, List.filterMap_append, List.getLast?_append]
  rfl

theorem lastStatement_toList (succeeded : Option Command) :
    lastStatement name predicate succeeded.toList = succeeded.bind (statement? name predicate) := by
  cases succeeded with
  | none => rfl
  | some command =>
      cases stated : statement? name predicate command <;> simp [lastStatement, stated]

end Command

namespace Session

/-- The commands of a run that succeeded, in order. -/
def history (session : Session) (lines : List String) : List Command :=
  (session.record lines).filterMap Command.succeeded?

/-- What is stated about a predicate of the object of a name. -/
def stated? (session : Session) (name predicate : String) : Option Bool :=
  (session.domain.find? name).bind (·.stated? predicate)

theorem history_cons (session : Session) (line : String) (rest : List String) :
    session.history (line :: rest) =
      (Command.succeeded? (line, session.execute line)).toList ++
        (session.execute line).session.history rest := by
  rw [history, record_cons, List.filterMap_cons]
  cases Command.succeeded? (line, session.execute line) <;> rfl

/-- A step makes an object known only by adding it. -/
theorem Effect.contains_iff (effect : Effect session line step) :
    step.session.domain.contains name = true ↔
      session.domain.contains name = true ∨
        ∃ added, Command.succeeded? (line, step) = some (.addObject added) ∧
          Text.lower added = Text.lower name := by
  cases effect with
  | @added addedName _ given ok joined after =>
      have key : (Object.named addedName).key = Text.lower addedName := rfl
      rw [after, Command.succeeded?_of_ok ok, given, Domain.contains, Domain.find?_add? joined, key,
        Option.isSome_or, Bool.or_eq_true, ← Domain.contains]
      by_cases same : Text.lower addedName = Text.lower name <;> simp [same]
  | stated given ok found after =>
      rw [after, Command.succeeded?_of_ok ok, given, Domain.contains, Domain.find?_state,
        Option.isSome_map, ← Domain.contains]
      simp
  | read ok reads after =>
      rw [after, Command.succeeded?_of_ok ok]
      have notAdded (added : String) : Command.ofLine? line ≠ some (.addObject added) := by
        intro given
        exact absurd (reads _ given) (by simp [Command.writes])
      simp [notAdded]
  | refused failed after =>
      rw [after, Command.succeeded?_of_failed failed]
      simp

theorem stated?_state {told toldPredicate : String} {value : Bool} {object : Object}
    (found : session.domain.find? told = some object) :
    Session.stated? ⟨session.domain.state told toldPredicate value⟩ name predicate =
      (Command.statement? name predicate (.stateFact told toldPredicate value)).or
        (session.stated? name predicate) := by
  rw [stated?, stated?, Domain.find?_state]
  by_cases sameName : Text.lower told = Text.lower name
  · have foundSame : session.domain.find? name = some object := by
      rw [Domain.find?, ← sameName]
      exact found
    rw [foundSame]
    by_cases samePredicate : Text.lower toldPredicate = Text.lower predicate
    · simp [Command.statement?, Object.stated?_state, sameName, samePredicate]
    · simp [Command.statement?, Object.stated?_state, sameName, samePredicate,
        Ne.symm samePredicate]
  · simp [Command.statement?, sameName, Ne.symm sameName]

/-- A step changes what is stated only by stating it. -/
theorem Effect.stated?_eq (effect : Effect session line step) :
    step.session.stated? name predicate =
      ((Command.succeeded? (line, step)).bind (Command.statement? name predicate)).or
        (session.stated? name predicate) := by
  cases effect with
  | @added addedName _ given ok joined after =>
      rw [after, Command.succeeded?_of_ok ok, given, stated?, stated?, Domain.find?_add? joined]
      cases session.domain.find? name with
      | some object => rfl
      | none =>
          -- Nothing is stated about the new object either.
          dsimp only [Option.none_or]
          split <;> rfl
  | stated given ok found after =>
      rw [after, Command.succeeded?_of_ok ok, given, Option.bind_some]
      exact stated?_state found
  | read ok reads after =>
      rw [after, Command.succeeded?_of_ok ok]
      cases given : Command.ofLine? line with
      | none => rfl
      | some command =>
          rw [Option.bind_some, Command.statement?_of_reading (reads command given), Option.none_or]
  | refused failed after =>
      rw [after, Command.succeeded?_of_failed failed]
      rfl

theorem contains_after (session : Session) (lines : List String) (name : String) :
    (session.after lines).domain.contains name = true ↔
      session.domain.contains name = true ∨
        ∃ added, Command.addObject added ∈ session.history lines ∧
          Text.lower added = Text.lower name := by
  induction lines generalizing session with
  | nil => simp [after, history]
  | cons line rest restIH =>
      rw [after, restIH, (session.execute_effect line).contains_iff, history_cons, or_assoc]
      simp only [List.mem_append, Option.mem_toList, or_and_right, exists_or]

theorem stated?_after (session : Session) (lines : List String) (name predicate : String) :
    (session.after lines).stated? name predicate =
      (Command.lastStatement name predicate (session.history lines)).or
        (session.stated? name predicate) := by
  induction lines generalizing session with
  | nil => rfl
  | cons line rest restIH =>
      -- The statements of the rest count before that of the first line, on both sides.
      rw [after, restIH, (session.execute_effect line).stated?_eq, history_cons,
        Command.lastStatement_append, Command.lastStatement_toList, Option.or_assoc]

/-- A question after any lines at all is answered exactly if a line that succeeded has added the
object. The answer is the last statement that succeeded, and the closed world is named exactly if
there was none. -/
theorem answer_eq_lastStatement (lines : List String) {name predicate : String}
    (quotableName : Quotable name) (quotable : Quotable predicate) (askable : Askable predicate) :
    let reply := ((start.after lines).execute (questionLine name predicate)).reply
    let last := Command.lastStatement name predicate (start.history lines)
    (reply.ok = true ↔
      ∃ added, Command.addObject added ∈ start.history lines ∧
        Text.lower added = Text.lower name) ∧
    (reply.ok = true →
      (reply.Reports true ↔ last = some true) ∧ (reply.Reports false ↔ last ≠ some true) ∧
        (reply.ShowsClosedWorld ↔ last = none)) := by
  intro reply last
  have answered : reply.ok = true ↔
      ∃ object, (start.after lines).domain.find? name = some object := by
    rw [execute_questionLine_ok_iff quotableName quotable, askable.read_eq]
    constructor
    · rintro ⟨object, _, found, _⟩
      exact ⟨object, found⟩
    · rintro ⟨object, found⟩
      exact ⟨object, _, found, rfl⟩
  have nothingKnown : ¬ start.domain.contains name = true := nofun
  have known := (contains_after start lines name).trans (or_iff_right nothingKnown)
  refine ⟨answered.trans (Domain.contains_iff.symm.trans known), fun ok => ?_⟩
  obtain ⟨object, found⟩ := answered.mp ok
  have stated : object.stated? predicate = last := by
    have whole := stated?_after start lines name predicate
    rw [stated?, found] at whole
    exact whole.trans (Option.or_none)
  obtain ⟨reports, tagged⟩ := answer_of_word quotableName quotable found askable.read_eq
  rw [stated] at reports tagged
  refine ⟨(reports true).trans ?_, (reports false).trans ?_, tagged⟩ <;>
    cases last with
    | none => simp
    | some value => cases value <;> simp

/-- The last statement is in letters of another case, and lines that fail stand before it. -/
theorem answer_after_last_statement :
    let lines := ["domain add x", "domain add X", "fact x \"is p\"", "fact y q", "exit",
      "Fact X \"Is P\" False"]
    let reply := ((start.after lines).execute (questionLine "x" "is p")).reply
    Quotable "x" ∧ Quotable "is p" ∧ Askable "is p" ∧ reply.ok = true ∧
      reply.Reports false ∧ ¬ reply.ShowsClosedWorld := by
  intro lines reply
  have quotableName : Quotable "x" := ⟨by decide, by decide⟩
  have quotable : Quotable "is p" := ⟨by decide +kernel, by decide +kernel⟩
  have askable : Askable "is p" := by decide
  obtain ⟨_, answer⟩ := answer_eq_lastStatement lines quotableName quotable askable
  have last : Command.lastStatement "x" "is p" (start.history lines) = some false := by
    decide +kernel
  have ok : reply.ok = true := by
    decide
  obtain ⟨_, reportsFalse, tagged⟩ := answer ok
  rw [last] at reportsFalse tagged
  exact ⟨quotableName, quotable, askable, ok, reportsFalse.mpr (by decide),
    fun shown => absurd (tagged.mp shown) (by decide)⟩

end Session

end Connexive
