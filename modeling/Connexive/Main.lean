import Connexive.CommandLine.Run
import Std.Time.Format

namespace Connexive

/-! The program itself: reads the files that a run may need and carries out its plan. -/

/-- Adds what is found under a path to a folder. -/
def Folder.addFrom (folder : Folder) (path : String) : IO Folder := do
  try
    let text ← IO.FS.readFile path
    return { folder with files := (path, text) :: folder.files }
  catch
    | .noFileOrDirectory .. => return folder
    | _ => return { folder with folders := path :: folder.folders }

/-- The paths that a run with these arguments may read. -/
def neededPaths (arguments : List String) : List String :=
  match Invocation.ofArguments arguments with
  | .ok (.run request) =>
    Settings.usualFiles ++ (request.config.toList ++ request.script.toList).map Path.normalise
  | _ => []

/-- The time of day as log lines show it. -/
def clock : IO String := do
  return (← Std.Time.PlainDateTime.now).format "uuuu-MM-dd HH:mm:ss,SSS"

def putNotices (notices : List Notice) : IO Unit := do
  let time ← clock
  for notice in notices do
    IO.eprintln (notice.render time)

/-- Converses with the terminal until the exit is requested or the input ends. -/
partial def converseWith (settings : Settings) (session : Session) (input : IO.FS.Stream) :
    IO Unit := do
  IO.print settings.prompt
  (← IO.getStdout).flush
  let line ← input.getLine
  if line.isEmpty then
    IO.println ""
  else
    let step := session.execute ((Text.feedLines line).headD "")
    putNotices (CommandLine.logNotices settings step.log)
    IO.print (Console.replyText step.reply)
    if !step.reply.exitRequested then
      converseWith settings step.session input

def runProgram (arguments : List String) : IO UInt32 := do
  let folder ← (neededPaths arguments).foldlM Folder.addFrom (Folder.ofFiles [])
  match CommandLine.plan arguments folder with
  | .error fault =>
    IO.eprintln fault.message
    return 1
  | .ok (.finish outcome) =>
    putNotices outcome.notices
    IO.print outcome.output
    return outcome.code.toUInt32
  | .ok (.converse settings startup) =>
    putNotices startup
    IO.print (Console.bannerText settings.showBanner)
    converseWith settings .start (← IO.getStdin)
    return 0

end Connexive

def main (arguments : List String) : IO UInt32 :=
  Connexive.runProgram arguments
