import Connexive.Command.Basic
import Connexive.Formula.Trace
import Connexive.Report

namespace Connexive

/-!
A session executes command lines over one domain. A command that is refused leaves the domain as it
was, and the session goes on.
-/

structure Session where
  domain : Domain

/-- What one command line answers. -/
structure Reply where
  lines : List String
  ok : Bool
  exitRequested : Bool
  clearRequested : Bool
  deriving DecidableEq

namespace Reply

def ofLines (lines : List String) : Reply := ⟨lines, true, false, false⟩

def failure (line : String) : Reply := ⟨[line], false, false, false⟩

def goodbye : Reply := ⟨["Goodbye!"], true, true, false⟩

def clearScreen : Reply := ⟨[], true, false, true⟩

end Reply

/-- The answer to one line, the session after it, and the records that it made. -/
structure Step where
  reply : Reply
  session : Session
  log : List LogRecord

namespace Session

def start : Session := ⟨.empty⟩

def find (session : Session) (name : String) : Except Refusal Object :=
  match session.domain.find? name with
  | some object => .ok object
  | none => .error (.objectNotFound name)

def readFormula (expression : List String) : Except Refusal Formula :=
  (Formula.read expression).mapError .expression

/-- The answer to a command and the session after it. -/
def run (session : Session) : Command → Except Refusal (Reply × Session)
  | .addObject name =>
    match session.domain.add? (.named name) with
    | some domain => .ok (.ofLines ["Object '" ++ name ++ "' added to the domain."], ⟨domain⟩)
    | none => .error (.duplicateObject name)
  | .stateFact name predicate value => do
    let object ← session.find name
    return (.ofLines ["Fact defined: " ++ object.name ++ " -> '" ++ predicate ++ "' is " ++
      Text.truthWord value ++ "."], ⟨session.domain.state name predicate value⟩)
  | .query name expression => do
    let object ← session.find name
    let formula ← readFormula expression
    return (.ofLines (Report.query formula.render object.name (formula.evaluate object)), session)
  | .checkForAll expression => do
    let formula ← readFormula expression
    return (.ofLines (Report.forAll formula.render (session.domain.forAll formula)), session)
  | .showState => .ok (.ofLines (Text.lines session.domain.render), session)
  | .showHelp => .ok (.ofLines Report.help, session)
  | .exit => .ok (.goodbye, session)
  | .clear => .ok (.clearScreen, session)

/-- The records of the parser while a command runs. A query of an unknown object reads nothing. -/
def commandLog (session : Session) : Command → List LogRecord
  | .query name expression =>
    if session.domain.contains name then parseLog "session.parser" expression else []
  | .checkForAll expression => parseLog "session.parser" expression
  | _ => []

def executingRecord (word : String) (arguments : List String) : LogRecord :=
  ⟨.debug, some "session", "Executing " ++ word ++ " with " ++ Text.quoteList arguments⟩

def refusedRecord (line : String) (refusal : Refusal) : LogRecord :=
  ⟨.info, some "session", "Command " ++ Text.quote line ++ " failed: " ++ refusal.message⟩

/-- The step of a refused command. -/
def refuse (session : Session) (line : String) (log : List LogRecord) (refusal : Refusal) : Step :=
  ⟨.failure ("Error: " ++ refusal.message), session, log ++ [refusedRecord line refusal]⟩

/-- The step of a verb in lower case with its arguments. `line` is what the log quotes. -/
def executeVerb (session : Session) (line word : String) (arguments : List String) (verb : Verb) :
    Step :=
  let executing := [executingRecord word arguments]
  match verb.command arguments with
  | .error refusal => session.refuse line executing refusal
  | .ok command =>
    let log := executing ++ session.commandLog command
    match session.run command with
    | .error refusal => session.refuse line log refusal
    | .ok (reply, next) => ⟨reply, next, log⟩

def execute (session : Session) (line : String) : Step :=
  match tokenize line with
  | .error fault => ⟨.failure ("Error: " ++ fault.message), session, []⟩
  | .ok [] => ⟨.ofLines [], session, []⟩
  | .ok (first :: arguments) =>
    let word := Text.lower first
    match Verb.ofWord? word with
    | none =>
      ⟨.failure ("Unknown command: '" ++ word ++ "'. Type 'help' for a list of commands."),
        session, []⟩
    | some verb => session.executeVerb line word arguments verb

/-- The steps of several lines in a row. A request to exit is only noted. -/
def executeAll (session : Session) : List String → List Step
  | [] => []
  | line :: rest =>
    let step := session.execute line
    step :: step.session.executeAll rest

end Session

end Connexive
