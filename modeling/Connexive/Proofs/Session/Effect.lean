import Connexive.Proofs.Domain.Lookup
import Connexive.Proofs.Outcome
import Connexive.Session.Basic

namespace Connexive

/-! What one line does to a session. A line gives at most one command, and there are four ways in
which its step can end; later proofs about runs go by cases over these and never look into the
commands.
-/

variable {session next : Session} {line : String} {command : Command} {reply : Reply}

/-- The verb that a line begins with. -/
def Verb.ofLine? (line : String) : Option Verb :=
  match tokenize line with
  | .ok (first :: _) => ofWord? (Text.lower first)
  | _ => none

/-- The verb that a command is given by. -/
def Command.verb : Command → Verb
  | addObject _ => .domain
  | stateFact _ _ _ => .fact
  | query _ _ => .query
  | checkForAll _ => .check
  | showState => .state
  | showHelp => .help
  | exit => .exit
  | clear => .clear

/-- The command that a line gives, whether or not it will succeed. -/
def Command.ofLine? (line : String) : Option Command :=
  match tokenize line with
  | .ok (first :: arguments) =>
    match Verb.ofWord? (Text.lower first) with
    | some verb => (verb.command arguments).toOption
    | none => none
  | _ => none

/-- Whether a command is there to change the domain. -/
def Command.writes : Command → Bool
  | addObject _ | stateFact _ _ _ => true
  | _ => false

theorem Command.ofLine?_eq_some_iff :
    ofLine? line = some command ↔
      ∃ first arguments verb, tokenize line = .ok (first :: arguments) ∧
        Verb.ofWord? (Text.lower first) = some verb ∧ verb.command arguments = .ok command := by
  unfold ofLine?
  constructor
  · intro given
    split at given
    · next first arguments cut =>
        split at given
        · next verb word =>
            cases written : verb.command arguments with
            | error refusal =>
                rw [written] at given
                contradiction
            | ok other =>
                rw [written] at given
                cases given
                exact ⟨first, arguments, verb, cut, word, written⟩
        · contradiction
    · contradiction
  · rintro ⟨first, arguments, verb, cut, word, written⟩
    rw [cut]
    dsimp only
    rw [word]
    dsimp only
    rw [written]
    rfl

theorem Verb.command_verb {verb : Verb} {arguments : List String}
    (written : verb.command arguments = .ok command) : command.verb = verb := by
  unfold Verb.command at written
  cases verb with
  | domain | check =>
      dsimp only at written
      split at written
      · split at written <;> cases written
        rfl
      · contradiction
  | fact =>
      dsimp only at written
      split at written
      · cases written
        rfl
      · split at written <;> cases written
        rfl
      · contradiction
  | query =>
      dsimp only at written
      split at written <;> cases written
      rfl
  | state | help | exit | clear =>
      cases written
      rfl

theorem Verb.writes_of_command {verb : Verb} {arguments : List String}
    (written : verb.command arguments = .ok command) (writes : command.writes = true) :
    verb = domain ∨ verb = fact := by
  rw [← command_verb written]
  cases command with
  | addObject => exact .inl rfl
  | stateFact => exact .inr rfl
  | _ => contradiction

/-- The texts that a command puts into the domain. -/
def Command.texts : Command → List String
  | addObject name => [name]
  | stateFact object predicate _ => [object, predicate]
  | _ => []

theorem Verb.mem_of_texts {verb : Verb} {arguments : List String}
    (written : verb.command arguments = .ok command) :
    ∀ text ∈ command.texts, text ∈ arguments := by
  unfold Verb.command at written
  cases verb with
  | domain | check =>
      dsimp only at written
      split at written
      · split at written <;> cases written
        simp [Command.texts]
      · contradiction
  | fact =>
      dsimp only at written
      split at written
      · cases written
        simp [Command.texts]
      · split at written <;> cases written
        simp [Command.texts]
      · contradiction
  | query =>
      dsimp only at written
      split at written <;> cases written
      nofun
  | state | help | exit | clear =>
      cases written
      nofun

theorem Command.verb_of_writes (given : ofLine? line = some command)
    (writes : command.writes = true) :
    Verb.ofLine? line = some .domain ∨ Verb.ofLine? line = some .fact := by
  obtain ⟨first, arguments, verb, cut, word, written⟩ := ofLine?_eq_some_iff.mp given
  have spoken : Verb.ofLine? line = some verb := by
    rw [Verb.ofLine?, cut]
    exact word
  rcases Verb.writes_of_command written writes with rfl | rfl
  · exact .inl spoken
  · exact .inr spoken

namespace Session

/-- What a line is told of the outcome of its command. -/
def replyOf : Except Refusal Reply → Reply
  | .error refusal => .failure ("Error: " ++ refusal.message)
  | .ok reply => reply

/-- Of a line that gives a command, nothing but the command decides what happens. -/
theorem execute_of_command (session : Session) (given : Command.ofLine? line = some command) :
    (session.execute line).reply = replyOf ((session.run command).map Prod.fst) ∧
      (session.execute line).session =
        ((session.run command).map Prod.snd).toOption.getD session := by
  obtain ⟨first, arguments, verb, cut, word, written⟩ := Command.ofLine?_eq_some_iff.mp given
  simp only [execute, cut, word, executeVerb, written]
  cases session.run command <;> exact ⟨rfl, rfl⟩

theorem execute_of_run (given : Command.ofLine? line = some command)
    (ran : session.run command = .ok (reply, next)) :
    (session.execute line).reply = reply ∧ (session.execute line).session = next := by
  obtain ⟨answered, after⟩ := execute_of_command session given
  rw [answered, after, ran]
  exact ⟨rfl, rfl⟩

theorem execute_of_refusal {refusal : Refusal} (given : Command.ofLine? line = some command)
    (refused : session.run command = .error refusal) :
    (session.execute line).reply = .failure ("Error: " ++ refusal.message) ∧
      (session.execute line).session = session := by
  obtain ⟨answered, after⟩ := execute_of_command session given
  rw [answered, after, refused]
  exact ⟨rfl, rfl⟩

/-- Where a line gives no command, nothing but the line decides the reply. -/
theorem exists_reply_of_no_command (noCommand : Command.ofLine? line = none) :
    ∃ reply, ∀ session : Session,
      (session.execute line).reply = reply ∧ (session.execute line).session = session := by
  unfold execute
  cases cut : tokenize line with
  | error fault => exact ⟨_, fun _ => ⟨rfl, rfl⟩⟩
  | ok words =>
      cases words with
      | nil => exact ⟨_, fun _ => ⟨rfl, rfl⟩⟩
      | cons first arguments =>
          dsimp only
          cases word : Verb.ofWord? (Text.lower first) with
          | none => exact ⟨_, fun _ => ⟨rfl, rfl⟩⟩
          | some verb =>
              cases written : verb.command arguments with
              | error refusal =>
                  simp only [executeVerb, written, refuse, and_true]
                  exact ⟨_, fun _ => rfl⟩
              | ok command =>
                  have given := Command.ofLine?_eq_some_iff.mpr
                    ⟨first, arguments, verb, cut, word, written⟩
                  rw [noCommand] at given
                  contradiction

theorem execute_of_no_command (noCommand : Command.ofLine? line = none) :
    (session.execute line).session = session := by
  obtain ⟨_, answered⟩ := exists_reply_of_no_command noCommand
  exact (answered session).2

theorem run_addObject {name : String} (ran : session.run (.addObject name) = .ok (reply, next)) :
    reply.ok = true ∧
      ∃ domain, session.domain.add? (.named name) = some domain ∧ next = ⟨domain⟩ := by
  rw [run] at ran
  split at ran
  · next domain joined =>
      cases ran
      exact ⟨rfl, domain, joined, rfl⟩
  · contradiction

theorem find_eq_ok_iff {name : String} {object : Object} :
    session.find name = .ok object ↔ session.domain.find? name = some object := by
  rw [find]
  cases session.domain.find? name <;> simp

theorem run_stateFact {name predicate : String} {value : Bool}
    (ran : session.run (.stateFact name predicate value) = .ok (reply, next)) :
    reply.ok = true ∧ (∃ object, session.domain.find? name = some object) ∧
      next = ⟨session.domain.state name predicate value⟩ := by
  rw [run] at ran
  obtain ⟨object, found, ran⟩ := of_bind ran
  cases ran
  exact ⟨rfl, ⟨object, find_eq_ok_iff.mp found⟩, rfl⟩

theorem run_reading (reads : command.writes = false)
    (ran : session.run command = .ok (reply, next)) : reply.ok = true ∧ next = session := by
  cases command with
  | addObject | stateFact => contradiction
  | query name expression =>
      rw [run] at ran
      obtain ⟨object, _, ran⟩ := of_bind ran
      obtain ⟨formula, _, ran⟩ := of_bind ran
      cases ran
      exact ⟨rfl, rfl⟩
  | checkForAll expression =>
      rw [run] at ran
      obtain ⟨formula, _, ran⟩ := of_bind ran
      cases ran
      exact ⟨rfl, rfl⟩
  | showState | showHelp | exit | clear =>
      cases ran
      exact ⟨rfl, rfl⟩

/-- The ways in which the step of a line can end. -/
inductive Effect (session : Session) (line : String) (step : Step) : Prop
  | added {name : String} {domain : Domain}
      (command : Command.ofLine? line = some (.addObject name)) (ok : step.reply.ok = true)
      (joined : session.domain.add? (.named name) = some domain)
      (after : step.session = ⟨domain⟩)
  | stated {name predicate : String} {value : Bool} {object : Object}
      (command : Command.ofLine? line = some (.stateFact name predicate value))
      (ok : step.reply.ok = true) (found : session.domain.find? name = some object)
      (after : step.session = ⟨session.domain.state name predicate value⟩)
  | read (ok : step.reply.ok = true)
      (reads : ∀ command, Command.ofLine? line = some command → command.writes = false)
      (after : step.session = session)
  | refused (failed : step.reply.ok = false) (after : step.session = session)

theorem execute_effect (session : Session) (line : String) :
    Effect session line (session.execute line) := by
  cases given : Command.ofLine? line with
  | none =>
      have after : (session.execute line).session = session := execute_of_no_command given
      cases ok : (session.execute line).reply.ok with
      | false => exact .refused ok after
      | true => exact .read ok (by simp [given]) after
  | some command =>
      cases ran : session.run command with
      | error refusal =>
          obtain ⟨failed, after⟩ := execute_of_refusal given ran
          exact .refused (by rw [failed]; rfl) after
      | ok outcome =>
          obtain ⟨reply, next⟩ := outcome
          obtain ⟨answered, after⟩ := execute_of_run given ran
          rw [← answered] at ran
          cases writes : command.writes with
          | false =>
              obtain ⟨ok, rfl⟩ := run_reading writes ran
              refine .read ok (fun other otherGiven => ?_) after
              cases given.symm.trans otherGiven
              exact writes
          | true =>
              cases command with
              | addObject name =>
                  obtain ⟨ok, domain, joined, rfl⟩ := run_addObject ran
                  exact .added given ok joined after
              | stateFact name predicate value =>
                  obtain ⟨ok, ⟨object, found⟩, rfl⟩ := run_stateFact ran
                  exact .stated given ok found after
              | _ => contradiction

end Session

end Connexive
