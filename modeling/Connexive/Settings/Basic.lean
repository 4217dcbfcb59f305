import Connexive.Log.Basic

namespace Connexive

/-! The settings of the console and its log. -/

structure Settings where
  debugLogging : Bool
  logLevel : LogLevel
  prompt : String
  showBanner : Bool
  deriving DecidableEq

namespace Settings

def default : Settings := ⟨false, .info, "logic> ", true⟩

/-- The level at which the log works: debug logging overrides the level that is set. -/
def effectiveLevel (settings : Settings) : LogLevel :=
  if settings.debugLogging then .debug else settings.logLevel

end Settings

end Connexive
