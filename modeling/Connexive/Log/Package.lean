import Connexive.Settings.Basic

namespace Connexive

/-!
The log of the whole package. Configuring it directs the records to a new stream through a handler
of its own and removes the handler of an earlier configuration; handlers that others installed
stay.
-/

/-- Passes records at or above its level to a stream, given by its place among all streams. -/
structure LogHandler where
  installed : Bool
  level : LogLevel
  stream : Nat
  deriving DecidableEq

structure PackageLog where
  level : LogLevel
  handlers : List LogHandler
  propagates : Bool
  streams : List (List LogRecord)

namespace PackageLog

/-- The log before anything configures it. -/
def fresh : PackageLog := ⟨.warning, [], true, []⟩

/-- Adds a record to the stream of a handler whose level admits it. -/
def handle (record : LogRecord) (streams : List (List LogRecord)) (handler : LogHandler) :
    List (List LogRecord) :=
  if handler.level.admits record.level then
    streams.modify handler.stream (· ++ [record])
  else streams

/-- A record reaches the handlers only if the log's own level admits it. -/
def emit (log : PackageLog) (record : LogRecord) : PackageLog :=
  if log.level.admits record.level then
    { log with streams := log.handlers.foldl (handle record) log.streams }
  else log

def emitAll (log : PackageLog) (records : List LogRecord) : PackageLog :=
  records.foldl emit log

/-- The records of a configuration itself. -/
def startupRecords (settings : Settings) : List LogRecord :=
  ⟨.info, none, "Logger initialized."⟩ ::
    if settings.debugLogging then [⟨.debug, none, "Debug logging is enabled."⟩] else []

/-- Directs the log to a new stream at the level of the settings. -/
def configure (log : PackageLog) (settings : Settings) : PackageLog :=
  let level := settings.effectiveLevel
  let others := log.handlers.filter fun handler => !handler.installed
  emitAll
    { level := level
      handlers := others ++ [⟨true, level, log.streams.length⟩]
      propagates := false
      streams := log.streams ++ [[]] }
    (startupRecords settings)

/-- The records of the latest stream. -/
def latest (log : PackageLog) : List LogRecord :=
  log.streams.getLast?.getD []

end PackageLog

/-- Log lines as their stream receives them, all made at `time`. -/
def renderLog (time : String) (records : List LogRecord) : String :=
  String.join (records.map (·.render time ++ "\n"))

end Connexive
