import Connexive.Settings.Basic
import Connexive.Text.Case
import Connexive.Text.Lines
import Connexive.Value

namespace Connexive

/-!
Settings from plain data. Every field that is refused is reported, in the order of the fields, and
keys that are no field are passed over.
-/

inductive ViolationKind
  | notAMapping
  | notBoolean
  | unreadableBoolean
  | unreadableText
  | notText
  | unknownLevel
  deriving DecidableEq

namespace ViolationKind

def code : ViolationKind → String
  | notAMapping => "model_type"
  | notBoolean => "bool_type"
  | unreadableBoolean => "bool_parsing"
  | unreadableText => "string_unicode"
  | notText => "string_type"
  | unknownLevel => "value_error"

def message : ViolationKind → String
  | notAMapping => "Input should be a valid dictionary or instance of EngineConfig"
  | notBoolean => "Input should be a valid boolean"
  | unreadableBoolean => "Input should be a valid boolean, unable to interpret input"
  | unreadableText =>
    "Input should be a valid string, unable to parse raw data as a unicode string"
  | notText => "Input should be a valid string"
  | unknownLevel =>
    "Value error, log_level must be one of " ++ ", ".intercalate (LogLevel.all.map LogLevel.name)

end ViolationKind

/-- A fault and the key under which it stands, none for the data as a whole. -/
structure Violation where
  key : Option String
  kind : ViolationKind
  deriving DecidableEq

/-- Why settings are refused, with the place that they came from. -/
inductive SettingsError
  | invalid (source : String) (violations : List Violation)
  | notAMapping (source : String)

/-- The report, of which only the first line stands where fields are refused. -/
def SettingsError.message : SettingsError → String
  | invalid source violations =>
    Text.firstLine (source ++ ": " ++ toString violations.length ++ " validation error" ++
      (if violations.length = 1 then "" else "s") ++ " for EngineConfig")
  | notAMapping source => source ++ ": expected a mapping of settings"

namespace Settings

def truthTexts : List (String × Bool) :=
  [("1", true), ("0", false), ("t", true), ("f", false), ("y", true), ("n", false),
    ("on", true), ("off", false), ("yes", true), ("no", false), ("true", true), ("false", false)]

/-- Zero and one mean truth values, and no other integer does. -/
def boolOfInt (value : Int) : Except ViolationKind Bool :=
  if value = 0 then .ok false
  else if value = 1 then .ok true
  else .error .unreadableBoolean

/-- One above the largest integer of 64 bits. -/
def wordBound : Int := 0x8000000000000000

/-- A truth value, or a number or text that means one. Only the integers of 64 bits can, as ints or
as floats; a float at the lower end of their range counts as outside. -/
def readBool : Value → Except ViolationKind Bool
  | .bool value => .ok value
  | .int value =>
    if -wordBound ≤ value && value < wordBound then boolOfInt value else .error .notBoolean
  | .float number =>
    match Value.whole? number with
    | some value =>
      if -wordBound < value && value < wordBound then boolOfInt value else .error .notBoolean
    | none => .error .notBoolean
  | .text value =>
    match truthTexts.lookup (Text.lower value) with
    | some truth => .ok truth
    | none => .error .unreadableBoolean
  | .surrogateText _ => .error .unreadableText
  | _ => .error .notBoolean

def readText : Value → Except ViolationKind String
  | .text value | .surrogateText value => .ok value
  | _ => .error .notText

/-- How values of a kind are read as fields. A value that is a truth value or a text is read as just
that. What else counts as one is up to the coercions. -/
structure Coercions (ν : Type) where
  IsBool : Bool → ν → Prop
  IsText : String → ν → Prop
  bool : ν → Except ViolationKind Bool
  text : ν → Except ViolationKind String
  bool_of_isBool : ∀ {truth value}, IsBool truth value → bool value = .ok truth
  text_of_isText : ∀ {written value}, IsText written value → text value = .ok written

/-- The coercions of plain data. -/
def plainCoercions : Coercions Value where
  IsBool truth value := value = .bool truth
  IsText written value := value = .text written ∨ value = .surrogateText written
  bool := readBool
  text := readText
  bool_of_isBool := by
    intro truth value same
    rw [same, readBool]
  text_of_isText := by
    intro written value same
    obtain same | same := same <;> rw [same, readText]

section Fields

variable {ν : Type}

def readLevel (coercions : Coercions ν) (value : ν) : Except ViolationKind LogLevel :=
  match coercions.text value with
  | .error kind => .error kind
  | .ok name =>
    match LogLevel.ofName? (Text.upper name) with
    | some level => .ok level
    | none => .error .unknownLevel

/-- The field under the first of `keys` that is there, `fallback` if none is. -/
def readField {α : Type} (fields : List (String × ν)) (fallback : α)
    (read : ν → Except ViolationKind α) : List String → Except Violation α
  | [] => .ok fallback
  | key :: others =>
    match fields.lookup key with
    | some value => (read value).mapError (Violation.mk (some key))
    | none => readField fields fallback read others

def violationOf {α : Type} : Except Violation α → List Violation
  | .ok _ => []
  | .error violation => [violation]

def ofFields (coercions : Coercions ν) (fields : List (String × ν)) :
    Except (List Violation) Settings :=
  let debugLogging := readField fields default.debugLogging coercions.bool
    ["debugLoggingEnabled", "debug_logging_enabled"]
  let logLevel := readField fields default.logLevel (readLevel coercions) ["log_level"]
  let prompt := readField fields default.prompt coercions.text ["prompt"]
  let showBanner := readField fields default.showBanner coercions.bool ["show_banner"]
  match debugLogging, logLevel, prompt, showBanner with
  | .ok debugLogging, .ok logLevel, .ok prompt, .ok showBanner =>
    .ok ⟨debugLogging, logLevel, prompt, showBanner⟩
  | _, _, _, _ =>
    .error (violationOf debugLogging ++ violationOf logLevel ++ violationOf prompt ++
      violationOf showBanner)

/-- Settings from a mapping that came from `source`. -/
def validateFields (coercions : Coercions ν) (source : String) (fields : List (String × ν)) :
    Except SettingsError Settings :=
  (ofFields coercions fields).mapError (SettingsError.invalid source)

end Fields

/-- Settings from plain data that came from `source`. -/
def validate (source : String) : Value → Except SettingsError Settings
  | .object fields => validateFields plainCoercions source fields
  | _ => .error (.invalid source [⟨none, .notAMapping⟩])

end Settings

end Connexive
