import Connexive.Session.Basic
import Connexive.Text.CharClass

namespace Connexive

/-! Running the lines of a script, to the end or to the first request to exit. -/

structure ScriptRun where
  printed : List String
  failures : Nat
  session : Session
  log : List LogRecord
  exited : Bool

/-- Whether a script passes over a line that is trimmed. -/
def isSkipped (line : String) : Bool :=
  line.isEmpty || line.toList.head? == some '#'

/-- The run of a first step followed by the run of the rest. -/
def ScriptRun.after (step : Step) (run : ScriptRun) : ScriptRun where
  printed := step.reply.lines ++ run.printed
  failures := (if step.reply.ok then 0 else 1) + run.failures
  session := run.session
  log := step.log ++ run.log
  exited := run.exited

def Session.runScript (session : Session) : List String → ScriptRun
  | [] => ⟨[], 0, session, [], false⟩
  | line :: rest =>
    let command := Text.trim line
    if isSkipped command then session.runScript rest
    else
      let step := session.execute command
      if step.reply.exitRequested then .after step ⟨[], 0, step.session, [], true⟩
      else .after step (step.session.runScript rest)

/-- Lines as a terminal receives them. -/
def printLines (lines : List String) : String :=
  String.join (lines.map (· ++ "\n"))

end Connexive
