import Connexive.Proofs.Command.Trim
import Connexive.Proofs.Session.Effect
import Connexive.Proofs.Session.Script
import Connexive.Session.Console

namespace Connexive

/-! The console and a script over the same lines. The one executes a line as it comes, the other
trims it first and passes over blank lines; but a line and its trimmed form are one command, and a
blank line answers nothing. So both make the same steps up to the first request to exit.
-/

variable {session next : Session} {line : String} {lines : List String} {command : Command}
  {reply : Reply} {refusal : Refusal}

/-- A reply asks of the terminal what the verb does. -/
structure Reply.AsksFor (reply : Reply) (verb : Option Verb) : Prop where
  exits : reply.exitRequested = decide (verb = some .exit)
  clears : reply.clearRequested = decide (verb = some .clear)

theorem Reply.AsksFor.of_failure {verb : Verb} (notExit : verb ≠ .exit) (notClear : verb ≠ .clear)
    (message : String) : (Reply.failure message).AsksFor (some verb) where
  exits := (decide_eq_false (mt Option.some.inj notExit)).symm
  clears := (decide_eq_false (mt Option.some.inj notClear)).symm

theorem Verb.asks_nothing_of_refused {verb : Verb} {arguments : List String}
    (refused : verb.command arguments = .error refusal) : verb ≠ .exit ∧ verb ≠ .clear := by
  constructor
  · rintro rfl
    contradiction
  · rintro rfl
    contradiction

namespace Session

theorem asks_nothing_of_refused (refused : session.run command = .error refusal) :
    command.verb ≠ .exit ∧ command.verb ≠ .clear := by
  cases command with
  | exit | clear | showState | showHelp => contradiction
  | addObject | stateFact | query | checkForAll => simp [Command.verb]

theorem run_asks (ran : session.run command = .ok (reply, next)) :
    reply.AsksFor (some command.verb) := by
  cases command with
  | exit | clear | showState | showHelp =>
      cases ran
      exact ⟨rfl, rfl⟩
  | addObject name =>
      rw [run] at ran
      split at ran <;> cases ran
      exact ⟨rfl, rfl⟩
  | stateFact name predicate value =>
      obtain ⟨object, _, ran⟩ := of_bind ran
      cases ran
      exact ⟨rfl, rfl⟩
  | query name expression =>
      obtain ⟨object, _, ran⟩ := of_bind ran
      obtain ⟨formula, _, ran⟩ := of_bind ran
      cases ran
      exact ⟨rfl, rfl⟩
  | checkForAll expression =>
      obtain ⟨formula, _, ran⟩ := of_bind ran
      cases ran
      exact ⟨rfl, rfl⟩

theorem executeVerb_asks (session : Session) (line word : String) (arguments : List String)
    (verb : Verb) :
    (session.executeVerb line word arguments verb).reply.AsksFor (some verb) := by
  unfold executeVerb
  dsimp only
  cases written : verb.command arguments with
  | error refusal =>
      obtain ⟨notExit, notClear⟩ := Verb.asks_nothing_of_refused written
      exact .of_failure notExit notClear _
  | ok command =>
      have ofVerb := Verb.command_verb written
      subst ofVerb
      dsimp only
      cases ran : session.run command with
      | error refusal =>
          obtain ⟨notExit, notClear⟩ := asks_nothing_of_refused ran
          exact .of_failure notExit notClear _
      | ok outcome => exact run_asks ran

/-- Only the verb decides what a reply asks of the terminal, and only the line the verb. -/
theorem execute_asks (session : Session) (line : String) :
    (session.execute line).reply.AsksFor (Verb.ofLine? line) := by
  unfold execute Verb.ofLine?
  cases tokenize line with
  | error fault => exact ⟨rfl, rfl⟩
  | ok words =>
      cases words with
      | nil => exact ⟨rfl, rfl⟩
      | cons first arguments =>
          dsimp only
          cases Verb.ofWord? (Text.lower first) with
          | none => exact ⟨rfl, rfl⟩
          | some verb => exact session.executeVerb_asks line (Text.lower first) arguments verb

/-- Lines of the same words are answered alike, and do the same. Only the log quotes the line. -/
theorem execute_congr {other : String} (sameWords : tokenize line = tokenize other) :
    (session.execute line).reply = (session.execute other).reply ∧
      (session.execute line).session = (session.execute other).session := by
  unfold execute
  rw [sameWords]
  cases tokenize other with
  | error fault => exact ⟨rfl, rfl⟩
  | ok words =>
      cases words with
      | nil => exact ⟨rfl, rfl⟩
      | cons first arguments =>
          dsimp only
          cases Verb.ofWord? (Text.lower first) with
          | none => exact ⟨rfl, rfl⟩
          | some verb =>
              dsimp only [executeVerb]
              cases verb.command arguments with
              | error refusal => exact ⟨rfl, rfl⟩
              | ok command =>
                  dsimp only
                  cases session.run command <;> exact ⟨rfl, rfl⟩

theorem execute_trim (session : Session) (line : String) :
    (session.execute (Text.trim line)).reply = (session.execute line).reply ∧
      (session.execute (Text.trim line)).session = (session.execute line).session :=
  execute_congr (tokenize_trim line)

end Session

/-- Whether a script takes a line for a comment. -/
def IsComment (line : String) : Prop :=
  (Text.trim line).toList.head? = some '#'

instance (line : String) : Decidable (IsComment line) :=
  inferInstanceAs (Decidable (_ = _))

/-- Whether a line is a command to exit. -/
def requestsExit (line : String) : Bool :=
  Verb.ofLine? line = some .exit

theorem trim_of_silent (silent : speaks line = false) (noComment : ¬ IsComment line) :
    Text.trim line = "" := by
  have skipped : isSkipped (Text.trim line) = true := by
    rw [isSkipped_trim, silent, Bool.not_false]
  rw [IsComment] at noComment
  simpa [isSkipped, noComment] using skipped

namespace Session

theorem execute_of_silent (session : Session) (silent : speaks line = false)
    (noComment : ¬ IsComment line) :
    (session.execute line).reply = .ofLines [] ∧ (session.execute line).session = session := by
  rw [← (session.execute_trim line).1, ← (session.execute_trim line).2,
    trim_of_silent silent noComment]
  exact ⟨rfl, rfl⟩

theorem exitRequested_eq (session : Session) (line : String) :
    (session.execute line).reply.exitRequested = requestsExit line :=
  (session.execute_asks line).exits

theorem speaks_of_exit (exits : requestsExit line = true) (noComment : ¬ IsComment line) :
    speaks line = true := by
  cases speaking : speaks line with
  | true => rfl
  | false =>
      have asks := start.exitRequested_eq line
      rw [(start.execute_of_silent speaking noComment).1, exits] at asks
      cases asks

/-- Behind a command to exit a script reads no line. -/
theorem runScript_exit (session : Session) (noComment : ¬ IsComment line)
    (exits : requestsExit line = true) (rest : List String) :
    (session.runScript (line :: rest)).printed = (session.execute line).reply.lines ∧
      (session.runScript (line :: rest)).session = (session.execute line).session := by
  obtain ⟨sameReply, sameSession⟩ := session.execute_trim line
  have asks := session.exitRequested_eq line
  rw [exits] at asks
  rw [runScript_of_speaking (speaks_of_exit exits noComment)]
  simp only [sameReply, asks, if_true, ScriptRun.after, sameSession, List.append_nil, and_self]

/-- Behind any other line a script goes on, as if it executed blank lines too. -/
theorem runScript_goesOn (session : Session) (noComment : ¬ IsComment line)
    (stays : requestsExit line = false) (rest : List String) :
    (session.runScript (line :: rest)).printed = (session.execute line).reply.lines ++
        ((session.execute line).session.runScript rest).printed ∧
      (session.runScript (line :: rest)).session =
        ((session.execute line).session.runScript rest).session := by
  cases speaking : speaks line with
  | false =>
      obtain ⟨answered, unchanged⟩ := session.execute_of_silent speaking noComment
      rw [runScript_of_silent speaking, answered, unchanged]
      exact ⟨rfl, rfl⟩
  | true =>
      obtain ⟨sameReply, sameSession⟩ := session.execute_trim line
      have asks := session.exitRequested_eq line
      rw [stays] at asks
      rw [runScript_of_speaking speaking]
      simp only [sameReply, asks, Bool.false_eq_true, if_false, ScriptRun.after, sameSession,
        and_self]

end Session

namespace Console

theorem replyText_of_keeps (keeps : Verb.ofLine? line ≠ some .clear) :
    replyText (session.execute line).reply = printLines (session.execute line).reply.lines := by
  have asks := (session.execute_asks line).clears
  rw [decide_eq_false keeps] at asks
  simp [replyText, asks]

theorem converse_exit (prompt : String) (session : Session) (exits : requestsExit line = true)
    (rest : List String) :
    (converse prompt session (line :: rest)).session = (session.execute line).session ∧
      (converse prompt session (line :: rest)).printed =
        replyText (session.execute line).reply ∧
      (converse prompt session (line :: rest)).prompts = [prompt] := by
  have asks := session.exitRequested_eq line
  rw [exits] at asks
  rw [converse]
  simp [asks, ConsoleRun.printed, ConsoleRun.prompts]

theorem converse_goesOn (prompt : String) (session : Session) (stays : requestsExit line = false)
    (rest : List String) :
    (converse prompt session (line :: rest)).session =
        (converse prompt (session.execute line).session rest).session ∧
      (converse prompt session (line :: rest)).printed =
        replyText (session.execute line).reply ++
          (converse prompt (session.execute line).session rest).printed ∧
      (converse prompt session (line :: rest)).prompts =
        prompt :: (converse prompt (session.execute line).session rest).prompts := by
  have asks := session.exitRequested_eq line
  rw [stays] at asks
  rw [converse]
  simp [asks, ConsoleRun.printed, ConsoleRun.prompts]

/-- A conversation ends in the session of the script and prints what the script prints, and a line
feed where the lines end it. It asks for each line up to the first that requests the exit, or once
more than there are lines. -/
structure Follows (prompt : String) (lines : List String) (script : ScriptRun) (run : ConsoleRun) :
    Prop where
  session : run.session = script.session
  printed : run.printed =
    printLines script.printed ++ if lines.any requestsExit then "" else "\n"
  prompts : run.prompts = List.replicate (lines.findIdx requestsExit + 1) prompt

theorem converse_follows (prompt : String) (session : Session)
    (noComment : ∀ line ∈ lines, ¬ IsComment line)
    (noClear : ∀ line ∈ lines, Verb.ofLine? line ≠ some .clear) :
    Follows prompt lines (session.runScript lines) (converse prompt session lines) := by
  induction lines generalizing session with
  | nil => exact ⟨rfl, rfl, rfl⟩
  | cons line rest restIH =>
      obtain ⟨notComment, restNoComment⟩ := List.forall_mem_cons.mp noComment
      obtain ⟨keeps, restNoClear⟩ := List.forall_mem_cons.mp noClear
      cases exits : requestsExit line with
      | true =>
          obtain ⟨scriptPrints, scriptEnds⟩ := session.runScript_exit notComment exits rest
          obtain ⟨ends, prints, asks⟩ := converse_exit prompt session exits rest
          refine ⟨?_, ?_, ?_⟩
          · rw [ends, scriptEnds]
          · rw [prints, scriptPrints, replyText_of_keeps keeps]
            simp [exits]
          · rw [asks]
            simp [List.findIdx_cons, exits]
      | false =>
          obtain ⟨scriptPrints, scriptEnds⟩ := session.runScript_goesOn notComment exits rest
          obtain ⟨ends, prints, asks⟩ := converse_goesOn prompt session exits rest
          have follows := restIH (session.execute line).session restNoComment restNoClear
          refine ⟨?_, ?_, ?_⟩
          · rw [ends, scriptEnds, follows.session]
          · rw [prints, scriptPrints, follows.printed, replyText_of_keeps keeps,
              printLines_append, String.append_assoc]
            simp [exits]
          · rw [asks, follows.prompts]
            simp [List.findIdx_cons, exits, List.replicate_succ]

/-- Without comments and without commands to clear the screen, the console follows the script. A
line requests the exit or not whatever came before it, and blanks around it change nothing. -/
theorem run_follows_script (prompt : String) (session : Session) (lines : List String)
    (noComment : ∀ line ∈ lines, ¬ IsComment line)
    (noClear : ∀ line ∈ lines, Verb.ofLine? line ≠ some .clear) :
    Follows prompt lines (session.runScript lines) (run prompt false session lines) ∧
      (∀ (session : Session) (line : String),
        (session.execute line).reply.exitRequested = requestsExit line) ∧
      ∀ (session : Session) (line : String),
        (session.execute (Text.trim line)).reply = (session.execute line).reply ∧
          (session.execute (Text.trim line)).session = (session.execute line).session := by
  have follows := converse_follows prompt session noComment noClear
  refine ⟨⟨follows.session, ?_, ?_⟩, fun session => session.exitRequested_eq,
    fun session => session.execute_trim⟩
  · rw [← follows.printed]
    simp [run, bannerText, ConsoleRun.printed]
  · rw [← follows.prompts]
    simp [run, ConsoleRun.prompts]

/-- Blanks around a line, a blank line, and a line behind the exit. -/
theorem run_follows_script_to_exit :
    let lines := ["\tdomain add x ", " ", "Exit now", "domain add y"]
    (∀ line ∈ lines, ¬ IsComment line) ∧ (∀ line ∈ lines, Verb.ofLine? line ≠ some .clear) ∧
      Follows "> " lines (Session.start.runScript lines) (run "> " false .start lines) := by
  intro lines
  have noComment : ∀ line ∈ lines, ¬ IsComment line := by decide
  have noClear : ∀ line ∈ lines, Verb.ofLine? line ≠ some .clear := by decide
  exact ⟨noComment, noClear, (run_follows_script "> " .start lines noComment noClear).1⟩

end Console

end Connexive
