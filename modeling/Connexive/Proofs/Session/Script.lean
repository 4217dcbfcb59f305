import Connexive.Proofs.Session.Run
import Connexive.Session.Script
import Mathlib.Data.List.DropRight

namespace Connexive

/-! What a script does, step by step. It executes the lines that are neither blank nor a comment, up
to the first that requests the exit, and reports what these steps answer. So a script in two parts
goes through the first part and then, unless that requested the exit, through the second.
-/

variable {session : Session} {lines first second : List String} {steps : List Step} {line : String}

/-- Whether a line gives a script anything to execute. Its first character that is no blank decides
this. -/
def speaks (line : String) : Bool :=
  (line.toList.find? (!Text.isBlank ·)).any (· != '#')

theorem isSkipped_trim (line : String) : isSkipped (Text.trim line) = !speaks line := by
  have begins : line.toList.find? (!Text.isBlank ·) =
      (line.toList.dropWhile Text.isBlank).head? := by
    rw [List.find?_eq_head?_dropWhile_not]
    simp only [Bool.not_not]
  have stopped := List.head?_dropWhile_not Text.isBlank line.toList
  rw [speaks, begins, Text.trim]
  cases left : line.toList.dropWhile Text.isBlank with
  | nil => rfl
  | cons c rest =>
      rw [left] at stopped
      -- The blanks behind the text do not reach its first character.
      obtain none | ⟨others, kept, _⟩ :=
        List.prefix_cons_iff.mp (List.rdropWhile_prefix Text.isBlank (c :: rest))
      · have blank := List.rdropWhile_eq_nil_iff.mp none c List.mem_cons_self
        rw [stopped] at blank
        contradiction
      · have trimmed : Text.dropBlanksRight (c :: rest) = c :: others := kept
        rw [trimmed]
        simp [isSkipped, bne]

theorem printLines_append (first second : List String) :
    printLines (first ++ second) = printLines first ++ printLines second := by
  simp [printLines]

namespace Session

/-- The commands of a script: the lines that it executes, trimmed. -/
def spoken (lines : List String) : List String :=
  (lines.filter speaks).map Text.trim

/-- Steps up to the first that requests the exit. -/
def upToExit (steps : List Step) : List Step :=
  steps.take (steps.findIdx (·.reply.exitRequested) + 1)

/-- The steps of a script. -/
def executed (session : Session) (lines : List String) : List Step :=
  upToExit (session.executeAll (spoken lines))

theorem upToExit_cons (step : Step) (rest : List Step) :
    upToExit (step :: rest) =
      step :: if step.reply.exitRequested then [] else upToExit rest := by
  rw [upToExit, List.findIdx_cons, List.take_succ_cons]
  cases step.reply.exitRequested <;> rfl

theorem executed_of_silent (silent : speaks line = false) (session : Session)
    (rest : List String) : session.executed (line :: rest) = session.executed rest := by
  rw [executed, spoken, List.filter_cons_of_neg (Bool.eq_false_iff.mp silent)]
  rfl

theorem executed_of_speaking (speaking : speaks line = true) (session : Session)
    (rest : List String) :
    let step := session.execute (Text.trim line)
    session.executed (line :: rest) =
      step :: if step.reply.exitRequested then [] else step.session.executed rest := by
  rw [executed, spoken, List.filter_cons_of_pos speaking]
  exact upToExit_cons _ _

end Session

/-- A run of a script that starts in this session and consists of these steps. -/
structure ScriptRun.Reports (run : ScriptRun) (session : Session) (steps : List Step) : Prop where
  printed : run.printed = steps.flatMap (·.reply.lines)
  failures : run.failures = steps.countP (!·.reply.ok)
  session : run.session = (steps.getLast?.map Step.session).getD session
  log : run.log = steps.flatMap Step.log
  exited : run.exited = steps.any (·.reply.exitRequested)

namespace ScriptRun

variable {step : Step} {run : ScriptRun}

theorem Reports.last (exits : step.reply.exitRequested = true) (session : Session) :
    (after step ⟨[], 0, step.session, [], true⟩).Reports session [step] := by
  refine ⟨?_, ?_, rfl, ?_, ?_⟩
  · simp [after]
  · cases ok : step.reply.ok <;> simp [after, ok]
  · simp [after]
  · simp [after, exits]

theorem Reports.after (rest : run.Reports step.session steps)
    (stays : step.reply.exitRequested = false) (session : Session) :
    (after step run).Reports session (step :: steps) := by
  refine ⟨?_, ?_, ?_, ?_, ?_⟩
  · simp [ScriptRun.after, rest.printed]
  · cases ok : step.reply.ok <;> simp [ScriptRun.after, rest.failures, ok, Nat.add_comm]
  · rw [ScriptRun.after, rest.session, List.getLast?_cons]
    cases steps.getLast? <;> rfl
  · simp [ScriptRun.after, rest.log]
  · simp [ScriptRun.after, rest.exited, stays]

/-- A run and then another one that starts where it ended. -/
def andThen (first second : ScriptRun) : ScriptRun where
  printed := first.printed ++ second.printed
  failures := first.failures + second.failures
  session := second.session
  log := first.log ++ second.log
  exited := second.exited

theorem andThen_after (step : Step) (run other : ScriptRun) :
    (ScriptRun.after step run).andThen other = .after step (run.andThen other) := by
  simp only [ScriptRun.after, andThen, List.append_assoc, Nat.add_assoc]

end ScriptRun

namespace Session

theorem runScript_of_silent (silent : speaks line = false) (session : Session)
    (rest : List String) : session.runScript (line :: rest) = session.runScript rest := by
  rw [runScript, isSkipped_trim, silent]
  rfl

theorem runScript_of_speaking (speaking : speaks line = true) (session : Session)
    (rest : List String) :
    let step := session.execute (Text.trim line)
    session.runScript (line :: rest) =
      if step.reply.exitRequested then .after step ⟨[], 0, step.session, [], true⟩
      else .after step (step.session.runScript rest) := by
  rw [runScript, isSkipped_trim, speaking]
  simp only [Bool.not_true, Bool.false_eq_true, if_false]

theorem runScript_reports (session : Session) (lines : List String) :
    (session.runScript lines).Reports session (session.executed lines) := by
  induction lines generalizing session with
  | nil => exact ⟨rfl, rfl, rfl, rfl, rfl⟩
  | cons line rest restIH =>
      cases speaking : speaks line with
      | false =>
          rw [runScript_of_silent speaking, executed_of_silent speaking]
          exact restIH session
      | true =>
          rw [runScript_of_speaking speaking, executed_of_speaking speaking]
          generalize session.execute (Text.trim line) = step
          cases exits : step.reply.exitRequested with
          | true =>
              simp only [if_true]
              exact .last exits session
          | false =>
              simp only [Bool.false_eq_true, if_false]
              exact (restIH step.session).after exits session

/-- A script in two parts. -/
theorem runScript_append (session : Session) (first second : List String) :
    session.runScript (first ++ second) =
      let run := session.runScript first
      if run.exited then run else run.andThen (run.session.runScript second) := by
  induction first generalizing session with
  | nil => simp [runScript, ScriptRun.andThen]
  | cons line rest restIH =>
      rw [List.cons_append]
      cases speaking : speaks line with
      | false => rw [runScript_of_silent speaking, runScript_of_silent speaking, restIH]
      | true =>
          rw [runScript_of_speaking speaking, runScript_of_speaking speaking]
          generalize session.execute (Text.trim line) = step
          cases exits : step.reply.exitRequested with
          | true => simp [ScriptRun.after]
          | false =>
              simp only [Bool.false_eq_true, if_false, restIH]
              rw [ScriptRun.andThen_after]
              exact apply_ite (ScriptRun.after step) _ _ _

theorem runScript_filter_speaks (session : Session) (lines : List String) :
    session.runScript (lines.filter speaks) = session.runScript lines := by
  induction lines generalizing session with
  | nil => rfl
  | cons line rest restIH =>
      cases speaking : speaks line with
      | false =>
          rw [List.filter_cons_of_neg (Bool.eq_false_iff.mp speaking),
            runScript_of_silent speaking, restIH]
      | true =>
          rw [List.filter_cons_of_pos speaking, runScript_of_speaking speaking,
            runScript_of_speaking speaking, restIH]

theorem exited_iff (session : Session) (lines : List String) :
    (session.runScript lines).exited = true ↔
      ∃ step ∈ session.executed lines, step.reply.exitRequested = true := by
  rw [(session.runScript_reports lines).exited, List.any_eq_true]

/-- Lists of lines with the same lines that speak make the same run. -/
theorem runScript_congr {other : List String} (same : other.filter speaks = lines.filter speaks)
    (session : Session) : session.runScript other = session.runScript lines := by
  rw [← runScript_filter_speaks, same, runScript_filter_speaks]

/-- A script in two parts prints, counts and does what its parts do, one after the other, unless a
line of the first part requests the exit: then the second part is as good as not there. What does
not speak may stand anywhere or be left out, and the failures are the executed lines that fail. -/
theorem runScript_composes (session : Session) (first second : List String) :
    let whole := session.runScript (first ++ second)
    let begun := session.runScript first
    let rest := begun.session.runScript second
    ((∀ step ∈ session.executed first, step.reply.exitRequested = false) →
      printLines whole.printed = printLines begun.printed ++ printLines rest.printed ∧
        whole.failures = begun.failures + rest.failures ∧ whole.session = rest.session) ∧
    ((∃ step ∈ session.executed first, step.reply.exitRequested = true) →
      printLines whole.printed = printLines begun.printed ∧
        whole.failures = begun.failures ∧ whole.session = begun.session) ∧
    (∀ other, other.filter speaks = first.filter speaks →
      let same := session.runScript other
      printLines same.printed = printLines begun.printed ∧
        same.failures = begun.failures ∧ same.session = begun.session) ∧
    begun.failures = (session.executed first).countP (!·.reply.ok) ∧
    begun.printed = (session.executed first).flatMap (·.reply.lines) := by
  intro whole begun rest
  have reports := session.runScript_reports first
  have composed : whole = if begun.exited then begun else begun.andThen rest :=
    session.runScript_append first second
  refine ⟨fun stays => ?_, fun exits => ?_, fun other sameSpoken => ?_,
    reports.failures, reports.printed⟩
  · have goesOn : ¬ begun.exited = true := by
      rw [session.exited_iff first]
      rintro ⟨step, member, exits⟩
      rw [stays step member] at exits
      contradiction
    rw [composed, if_neg goesOn]
    exact ⟨printLines_append _ _, rfl, rfl⟩
  · rw [composed, if_pos ((session.exited_iff first).mpr exits)]
    exact ⟨rfl, rfl, rfl⟩
  · intro same
    have sameRun : same = begun := runScript_congr sameSpoken session
    rw [sameRun]
    exact ⟨rfl, rfl, rfl⟩

/-- A comment on the exit is passed over, and a line behind the exit is not executed. -/
theorem runScript_composes_at_exit :
    let first := ["domain add x", " # exit", "", "fact y p"]
    let second := ["\tQuit now", "fact z p"]
    let begun := start.runScript first
    (∀ step ∈ start.executed first, step.reply.exitRequested = false) ∧
      (∃ step ∈ start.executed ["\tQuit now"], step.reply.exitRequested = true) ∧
      ["domain add x", "fact y p"].filter speaks = first.filter speaks ∧
      begun.failures = 1 ∧
      (start.runScript (first ++ second)).failures =
        begun.failures + (begun.session.runScript second).failures ∧
      (start.runScript second).failures = (start.runScript ["\tQuit now"]).failures ∧
      (start.runScript ["domain add x", "fact y p"]).session = begun.session := by
  intro first second begun
  have stays : ∀ step ∈ start.executed first, step.reply.exitRequested = false := by decide
  have exits : ∃ step ∈ start.executed ["\tQuit now"], step.reply.exitRequested = true := by
    decide
  have same : ["domain add x", "fact y p"].filter speaks = first.filter speaks := by decide
  obtain ⟨goesOn, _, kept, counted, _⟩ := runScript_composes start first second
  obtain ⟨_, stops, _⟩ := runScript_composes start ["\tQuit now"] ["fact z p"]
  exact ⟨stays, exits, same, counted.trans (by decide), (goesOn stays).2.1, (stops exits).2.1,
    (kept _ same).2.2⟩

end Session

end Connexive
