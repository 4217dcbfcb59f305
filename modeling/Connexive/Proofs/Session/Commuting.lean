import Connexive.Proofs.Domain.Reordered
import Connexive.Proofs.Session.Inert
import Connexive.Proofs.Session.Question

namespace Connexive

/-! Statements that are made in another order, or twice. Each is answered as it would be alone, and
where they are about different facts the sessions after both orders answer every question alike.
-/

variable {session other : Session} {line name otherName predicate otherPredicate : String}
  {value otherValue : Bool} {object : Object} {command : Command}

/-- A line that neither changes the domain nor displays it. The questions are such lines, and so is
every line that cannot be cut into words. -/
def IsQuestion (line : String) : Prop :=
  ∀ verb ∈ [Verb.domain, .fact, .state], Verb.ofLine? line ≠ some verb

instance (line : String) : Decidable (IsQuestion line) :=
  inferInstanceAs (Decidable (∀ verb ∈ [Verb.domain, .fact, .state], _))

theorem Command.verb_of_ofLine? (given : ofLine? line = some command) :
    Verb.ofLine? line = some command.verb := by
  obtain ⟨first, arguments, verb, cut, word, written⟩ := ofLine?_eq_some_iff.mp given
  rw [Verb.ofLine?, cut, Verb.command_verb written]
  exact word

theorem IsQuestion.inert (asks : IsQuestion line) (step : Step) : Inert (line, step) :=
  .inr ⟨asks .domain (by simp), asks .fact (by simp)⟩

namespace Session

/-- The reply to a line depends on nothing but what its command answers. -/
theorem reply_congr (given : Command.ofLine? line = some command)
    (same : (session.run command).map Prod.fst = (other.run command).map Prod.fst) :
    (session.execute line).reply = (other.execute line).reply := by
  rw [(execute_of_command session given).1, (execute_of_command other given).1, same]

theorem run_query_reordered (reorders : session.domain.Reordered other.domain) (name : String)
    (expression : List String) :
    (session.run (.query name expression)).map Prod.fst =
      (other.run (.query name expression)).map Prod.fst := by
  have found := reorders.find? name
  rw [run, run, Session.find, Session.find]
  generalize session.domain.find? name = here, other.domain.find? name = there at found ⊢
  cases found with
  | none => rfl
  | some objects =>
      cases readFormula expression with
      | error refusal => rfl
      | ok formula =>
          simp only [bind, Except.bind, pure, Except.pure, Except.map, objects.sameName,
            objects.evaluate formula]

theorem run_checkForAll_reordered (reorders : session.domain.Reordered other.domain)
    (expression : List String) :
    (session.run (.checkForAll expression)).map Prod.fst =
      (other.run (.checkForAll expression)).map Prod.fst := by
  rw [run, run]
  cases readFormula expression with
  | error refusal => rfl
  | ok formula =>
      simp only [bind, Except.bind, pure, Except.pure, Except.map, reorders.forAll formula]

/-- Sessions that differ at most in the order of facts answer a question alike. -/
theorem reply_reordered (reorders : session.domain.Reordered other.domain)
    (asks : IsQuestion line) : (session.execute line).reply = (other.execute line).reply := by
  cases given : Command.ofLine? line with
  | none =>
      obtain ⟨reply, answered⟩ := exists_reply_of_no_command given
      rw [(answered session).1, (answered other).1]
  | some command =>
      apply reply_congr given
      have verb := Command.verb_of_ofLine? given
      cases command with
      | addObject name => exact absurd verb (asks .domain (by simp))
      | stateFact name predicate value => exact absurd verb (asks .fact (by simp))
      | showState => exact absurd verb (asks .state (by simp))
      | showHelp | exit | clear => rfl
      | query name expression => exact run_query_reordered reorders name expression
      | checkForAll expression => exact run_checkForAll_reordered reorders expression

theorem replies_reordered (reorders : session.domain.Reordered other.domain) {lines : List String}
    (ask : ∀ line ∈ lines, IsQuestion line) :
    (session.executeAll lines).map Step.reply = (other.executeAll lines).map Step.reply := by
  induction lines with
  | nil => rfl
  | cons line rest restIH =>
      obtain ⟨asks, later⟩ := List.forall_mem_cons.mp ask
      simp only [executeAll, List.map_cons]
      rw [reply_reordered reorders asks, execute_of_inert (asks.inert _),
        execute_of_inert (asks.inert _), restIH later]

/-- What a statement about a known object does. -/
theorem execute_stateFact (given : Command.ofLine? line = some (.stateFact name predicate value))
    (found : session.domain.find? name = some object) :
    (session.execute line).reply = .ofLines ["Fact defined: " ++ object.name ++ " -> '" ++
      predicate ++ "' is " ++ Text.truthWord value ++ "."] ∧
    (session.execute line).session = ⟨session.domain.state name predicate value⟩ := by
  apply execute_of_run given
  rw [run, find_eq_ok_iff.mpr found]
  rfl

theorem found_of_ok (given : Command.ofLine? line = some (.stateFact name predicate value))
    (ok : (session.execute line).reply.ok = true) :
    ∃ object, session.domain.find? name = some object := by
  cases ran : session.run (.stateFact name predicate value) with
  | error refusal =>
      rw [(execute_of_refusal given ran).1] at ok
      contradiction
  | ok outcome => exact (run_stateFact ran).2.1

/-- A statement is answered alike before another one and behind it. -/
theorem reply_after_stateFact {first second : String}
    (given : Command.ofLine? first = some (.stateFact name predicate value))
    (secondGiven : Command.ofLine? second = some (.stateFact otherName otherPredicate otherValue))
    (ok : (session.execute first).reply.ok = true)
    (secondOk : (session.execute second).reply.ok = true) :
    ((session.execute second).session.execute first).reply = (session.execute first).reply ∧
      ((session.execute second).session.execute first).session.domain =
        (session.domain.state otherName otherPredicate otherValue).state name predicate value := by
  obtain ⟨object, found⟩ := found_of_ok given ok
  obtain ⟨_, secondFound⟩ := found_of_ok secondGiven secondOk
  have after := (execute_stateFact secondGiven secondFound).2
  have domainAfter : (session.execute second).session.domain =
      session.domain.state otherName otherPredicate otherValue := congrArg Session.domain after
  have foundAfter := Domain.find?_state session.domain otherName otherPredicate name otherValue
  rw [found, Option.map_some, ← domainAfter] at foundAfter
  obtain ⟨answered, told⟩ := execute_stateFact given foundAfter
  rw [answered, (execute_stateFact given found).1, told, domainAfter]
  refine ⟨?_, rfl⟩
  split <;> rfl

/-- A line that adds nothing is answered alike when it is repeated at once, and changes nothing. -/
theorem execute_twice (session : Session) (addsNothing : Verb.ofLine? line ≠ some .domain) :
    let told := (session.execute line).session
    (told.execute line).reply = (session.execute line).reply ∧
      (told.execute line).session = told := by
  intro told
  cases session.execute_effect line with
  | added given => exact absurd (Command.verb_of_ofLine? given) addsNothing
  | @stated name predicate value object given ok found after =>
      obtain ⟨sameReply, again⟩ := reply_after_stateFact given given ok ok
      have unchanged : (told.execute line).session.domain = told.domain := by
        rw [again, Domain.state_state]
        exact (congrArg Session.domain after).symm
      exact ⟨sameReply, congrArg Session.mk unchanged⟩
  | read _ _ after | refused _ after =>
      have unchanged : told = session := after
      rw [unchanged]
      exact ⟨rfl, after⟩

/-- Statements about different objects or different predicates can be made in either order. Each is
answered alike, and afterwards so is every question, in any row of them; only the order in which the
facts of an object are shown can differ. A line that adds no object, and so every statement, can be
repeated at once without any change. -/
theorem statements_commute (session : Session) :
    (∀ first second name predicate value otherName otherPredicate otherValue,
      Command.ofLine? first = some (.stateFact name predicate value) →
      Command.ofLine? second = some (.stateFact otherName otherPredicate otherValue) →
      (session.execute first).reply.ok = true → (session.execute second).reply.ok = true →
      Text.lower name ≠ Text.lower otherName ∨
        Text.lower predicate ≠ Text.lower otherPredicate →
      let there := session.after [first, second]
      let back := session.after [second, first]
      ((session.execute second).session.execute first).reply = (session.execute first).reply ∧
        ((session.execute first).session.execute second).reply =
          (session.execute second).reply ∧
        there.domain.Reordered back.domain ∧
        ∀ lines, (∀ line ∈ lines, IsQuestion line) →
          (there.executeAll lines).map Step.reply = (back.executeAll lines).map Step.reply) ∧
    ∀ line, Verb.ofLine? line ≠ some .domain →
      let told := (session.execute line).session
      (told.execute line).reply = (session.execute line).reply ∧
        (told.execute line).session = told := by
  refine ⟨?_, fun _ => session.execute_twice⟩
  intro first second name predicate value otherName otherPredicate otherValue given secondGiven ok
    secondOk apart there back
  obtain ⟨reply, backAfter⟩ := reply_after_stateFact given secondGiven ok secondOk
  obtain ⟨secondReply, thereAfter⟩ := reply_after_stateFact secondGiven given secondOk ok
  have reorders : there.domain.Reordered back.domain := by
    have thereDomain : there.domain = _ := thereAfter
    have backDomain : back.domain = _ := backAfter
    rw [thereDomain, backDomain]
    exact Domain.state_comm apart session.domain value otherValue
  exact ⟨reply, secondReply, reorders, fun _ => replies_reordered reorders⟩

/-- The display tells in which order two facts were stated, and no answer does. -/
theorem statements_commute_of_one_object :
    let session := start.after ["domain add x"]
    let first := statementLine "x" "a" true
    let second := statementLine "X" "b c" false
    let there := session.after [first, second]
    let back := session.after [second, first]
    let lines := ["query x \"B C\" OR NOT a", "check forall a?", "check all a", "query x \"a"]
    (session.execute first).reply.ok = true ∧ (session.execute second).reply.ok = true ∧
      there.domain.render ≠ back.domain.render ∧ (∀ line ∈ lines, IsQuestion line) ∧
      (there.executeAll lines).map Step.reply = (back.executeAll lines).map Step.reply ∧
      Verb.ofLine? second ≠ some .domain ∧ (there.execute second).session = there := by
  intro session first second there back lines
  have given : Command.ofLine? first = some (.stateFact "x" "a" true) :=
    ofLine?_statementLine ⟨by decide, by decide⟩ ⟨by decide, by decide⟩
  have secondGiven : Command.ofLine? second = some (.stateFact "X" "b c" false) :=
    ofLine?_statementLine ⟨by decide, by decide⟩ ⟨by decide, by decide⟩
  have ok : (session.execute first).reply.ok = true := by decide
  have secondOk : (session.execute second).reply.ok = true := by decide
  have ask : ∀ line ∈ lines, IsQuestion line := by decide
  have addsNothing : Verb.ofLine? second ≠ some .domain := by
    rw [Command.verb_of_ofLine? secondGiven]
    decide
  obtain ⟨commute, _⟩ := statements_commute session
  obtain ⟨_, repeated⟩ := statements_commute (session.execute first).session
  obtain ⟨_, _, _, alike⟩ := commute first second "x" "a" true "X" "b c" false given secondGiven ok
    secondOk (.inr (by decide))
  exact ⟨ok, secondOk, by decide, ask, alike lines ask, addsNothing,
    (repeated second addsNothing).2⟩

end Session

end Connexive
