import Connexive.CommandLine.Arguments
import Connexive.Log.Package
import Connexive.Session.Console
import Connexive.Settings.Load

namespace Connexive

/-!
A run of the program: from its arguments, the files it can reach and the text of its input to what
it prints and the code with which it ends.
-/

/-- One line for the error output. The time of a record is only known when it is written. -/
inductive Notice
  | text (line : String)
  | record (record : LogRecord)

def Notice.render (time : String) : Notice → String
  | text line => line
  | record entry => entry.render time

structure Outcome where
  code : Nat
  output : String
  notices : List Notice

/-- What is left to do once the arguments and the settings are known. -/
inductive Plan
  | finish (outcome : Outcome)
  | converse (settings : Settings) (startup : List Notice)

/-- What breaks a run off: a file or a value that cannot be had, or an option that is left without a
value. -/
inductive RunFault
  | file (fault : FileFault)
  | value (reason : Yaml.NoSuchValue)
  | noValue (flag : Flag)

def RunFault.message : RunFault → String
  | file fault => fault.message
  | value reason => reason.message
  | noValue .script => "'list' object has no attribute 'read_text'"
  | noValue .config => "expected str, bytes or os.PathLike object, not list"
  | noValue _ => "'list' object has no attribute 'strip'"

namespace CommandLine

def usage : List String :=
  ["usage: finitelogic [-h] [--config CONFIG] [--debug] [-e COMMAND]",
    "                   [--script SCRIPT]"]

def help : List String :=
  usage ++
  ["",
    "Finite-domain relevant and connexive logic engine",
    "",
    "options:",
    "  -h, --help            show this help message and exit",
    "  --config CONFIG       Path to a YAML or JSON config file",
    "  --debug               Enable debug logging",
    "  -e COMMAND, --execute COMMAND",
    "                        Run a command and exit (may be repeated)",
    "  --script SCRIPT       Run commands from a file and exit"]

/-- The end of a run that does nothing, with code 2. -/
def abort (notices : List Notice) (line : String) : Outcome :=
  ⟨2, "", notices ++ [.text line]⟩

def usageOutcome (fault : UsageFault) : Outcome :=
  abort (usage.map .text) ("finitelogic: error: " ++ fault.message)

/-- The notices of the records that the log lets through. -/
def logNotices (settings : Settings) (records : List LogRecord) : List Notice :=
  (admitted settings.effectiveLevel records).map .record

def startup (settings : Settings) : List Notice :=
  logNotices settings (PackageLog.startupRecords settings)

/-- The lines of a script that is named, none if there is none. -/
def scriptLines (folder : Folder) : Option String → Except FileFault (List String)
  | none => .ok []
  | some named =>
    (folder.read (Path.normalise named)).map fun text =>
      Text.lines (String.ofList (Text.normaliseBreaks text.toList))

def scriptFaultLine (named : String) (fault : FileFault) : String :=
  "Error: cannot read " ++ Path.normalise named ++ ": " ++ fault.message

/-- Runs command lines in a new session. The code is 1 if any of them failed. -/
def runLines (settings : Settings) (lines : List String) : Outcome :=
  let run := Session.start.runScript lines
  ⟨if run.failures = 0 then 0 else 1, printLines run.printed,
    startup settings ++ logNotices settings run.log⟩

/-- Whether the commands come to one that is left out, before they ask to exit. -/
def meetsNoValue (commands : List String) : Bool :=
  commands.contains Request.noValue &&
    !(Session.start.runScript (commands.takeWhile (· != Request.noValue))).exited

/-- Runs the commands of a request and then those of its script, or starts the console if there is
neither. -/
def runRequest (folder : Folder) (request : Request) (settings : Settings) :
    Except RunFault Plan :=
  if request.commands.isEmpty && request.script.isNone then
    .ok (.converse settings (startup settings))
  else if request.script = some Request.noValue then .error (.noValue .script)
  else
    match scriptLines folder request.script with
    | .ok lines =>
      if meetsNoValue request.commands then .error (.noValue .execute)
      else .ok (.finish (runLines settings (request.commands ++ lines)))
    | .error .nullCharacter => .error (.file .nullCharacter)
    | .error fault =>
      .ok (.finish (abort (startup settings) (scriptFaultLine (request.script.getD "") fault)))

/-- The plan of a request, which starts with its settings. -/
def planRequest (read : Settings.DocumentReader) (folder : Folder) (request : Request) :
    Except RunFault Plan :=
  if request.config = some Request.noValue then .error (.noValue .config)
  else
    match (Settings.loadWith read folder request.config).result with
    | .error (.file fault) => .error (.file fault)
    | .error (.value reason) => .error (.value reason)
    | .error (.settings error) => .ok (.finish (abort [] ("Error: " ++ error.message)))
    | .ok settings =>
      runRequest folder request
        { settings with debugLogging := settings.debugLogging || request.debug }

/-- What the arguments ask for, where `read` reads a document of settings. -/
def planWith (read : Settings.DocumentReader) (arguments : List String) (folder : Folder) :
    Except RunFault Plan :=
  match Invocation.ofArguments arguments with
  | .error fault => .ok (.finish (usageOutcome fault))
  | .ok .showHelp => .ok (.finish ⟨0, printLines help, []⟩)
  | .ok (.run request) => planRequest read folder request

def plan (arguments : List String) (folder : Folder) : Except RunFault Plan :=
  planWith Yaml.load arguments folder

/-- The outcome of a console that reads its lines from a text. -/
def converse (settings : Settings) (startup : List Notice) (input : String) : Outcome :=
  let run := Console.run settings.prompt settings.showBanner .start (Text.feedLines input)
  ⟨0, run.transcript, startup ++ logNotices settings run.log⟩

def runWith (read : Settings.DocumentReader) (arguments : List String) (folder : Folder)
    (input : String) : Except RunFault Outcome :=
  (planWith read arguments folder).map fun
    | .finish outcome => outcome
    | .converse settings startup => converse settings startup input

def run (arguments : List String) (folder : Folder) (input : String) :
    Except RunFault Outcome :=
  runWith Yaml.load arguments folder input

end CommandLine

/-- The text of the error output, all of it written at `time`. -/
def Outcome.errors (time : String) (outcome : Outcome) : String :=
  printLines (outcome.notices.map (Notice.render time))

end Connexive
