namespace Connexive

/-! Log records, and the rule that a level lets through what is at least as severe. -/

/-- How severe a record is. A few of the levels have a name. -/
structure LogLevel where
  severity : Nat
  deriving DecidableEq

namespace LogLevel

def debug : LogLevel := ⟨10⟩

def info : LogLevel := ⟨20⟩

def warning : LogLevel := ⟨30⟩

def error : LogLevel := ⟨40⟩

def critical : LogLevel := ⟨50⟩

def named : List (LogLevel × String) :=
  [(debug, "DEBUG"), (info, "INFO"), (warning, "WARNING"), (error, "ERROR"),
    (critical, "CRITICAL")]

def all : List LogLevel := named.map Prod.fst

def name (level : LogLevel) : String :=
  (named.lookup level).getD ("Level " ++ toString level.severity)

def ofName? (name : String) : Option LogLevel :=
  all.find? (·.name == name)

/-- Whether a logger at this level passes a record of level `other` on. -/
def admits (level other : LogLevel) : Bool :=
  level.severity ≤ other.severity

end LogLevel

/-- One message. Its source is a part of the package, or none for the package as a whole. -/
structure LogRecord where
  level : LogLevel
  source : Option String
  message : String
  deriving DecidableEq

namespace LogRecord

def package : String := "backend.finitelogic"

def loggerName (record : LogRecord) : String :=
  match record.source with
  | none => package
  | some source => package ++ "." ++ source

/-- The line of a record that was made at `time`. -/
def render (time : String) (record : LogRecord) : String :=
  time ++ " - " ++ record.loggerName ++ " - " ++ record.level.name ++ " - " ++ record.message

end LogRecord

/-- The records that a logger at `level` passes on. -/
def admitted (level : LogLevel) (records : List LogRecord) : List LogRecord :=
  records.filter fun record => level.admits record.level

end Connexive
