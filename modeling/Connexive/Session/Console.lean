import Connexive.Session.Script

namespace Connexive

/-!
The interactive console: it asks for a line, prints the answer, and ends on a request to exit or
when no line comes any more.
-/

inductive ConsoleEvent
  | asked (prompt : String)
  | printed (text : String)

structure ConsoleRun where
  events : List ConsoleEvent
  session : Session
  log : List LogRecord

namespace Console

def welcome : List String :=
  ["--- Grounded Finitist Connexive Logic Engine ---",
    "Type 'help' for commands or 'exit' to quit.",
    Report.repeated "-" 48]

/-- Earlier lines can be called back wherever the terminal lets a line be edited. -/
def keepsHistory (lineEditing : Bool) : Bool :=
  lineEditing

/-- Empties the screen and puts the cursor into its corner. -/
def clearSequence : String :=
  "\x1b[2J\x1b[H"

/-- What the console prints for a reply. -/
def replyText (reply : Reply) : String :=
  (if reply.clearRequested then clearSequence else "") ++ printLines reply.lines

def bannerText (showBanner : Bool) : String :=
  if showBanner then printLines welcome else ""

/-- The conversation over the lines that come, until they end or one requests the exit. -/
def converse (prompt : String) (session : Session) : List String → ConsoleRun
  | [] => ⟨[.asked prompt, .printed "\n"], session, []⟩
  | line :: rest =>
    let step := session.execute line
    let events := [ConsoleEvent.asked prompt, .printed (replyText step.reply)]
    if step.reply.exitRequested then ⟨events, step.session, step.log⟩
    else
      let run := converse prompt step.session rest
      ⟨events ++ run.events, run.session, step.log ++ run.log⟩

def run (prompt : String) (showBanner : Bool) (session : Session) (lines : List String) :
    ConsoleRun :=
  let conversation := converse prompt session lines
  { conversation with events := .printed (bannerText showBanner) :: conversation.events }

end Console

namespace ConsoleRun

def printed (run : ConsoleRun) : String :=
  String.join (run.events.map fun
    | .asked _ => ""
    | .printed text => text)

def prompts (run : ConsoleRun) : List String :=
  run.events.filterMap fun
    | .asked prompt => some prompt
    | .printed _ => none

/-- All that a terminal shows, where the prompts are echoed and the answers to them are not. -/
def transcript (run : ConsoleRun) : String :=
  String.join (run.events.map fun
    | .asked prompt => prompt
    | .printed text => text)

end ConsoleRun

end Connexive
