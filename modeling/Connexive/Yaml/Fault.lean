namespace Connexive.Yaml

/-! What can be wrong with a document: its form, or a value that its form promises. -/

/-- A scalar that has the form of a value of which there is none. -/
inductive NoSuchValue
  | noDigits (base : Nat)
  | tooManyDigits (count : Nat)
  | hugePlace
  | offset (minutes : Int)
  | year
  | month
  | day
  | hour
  | minute
  | second
  | character (code : Nat)
  deriving DecidableEq

namespace NoSuchValue

/-- The most digits that a decimal integer may have. -/
def digitLimit : Nat := 4300

/-- A span of time in whole days and the seconds that are left. -/
def spanText (minutes : Int) : String :=
  let seconds := (60 * minutes) % 86400
  "datetime.timedelta(days=" ++ toString (minutes / 1440) ++
    (if seconds = 0 then "" else ", seconds=" ++ toString seconds) ++ ")"

/-- Whether a number is past a range, rather than something else than it has to be. -/
def isOverflow : NoSuchValue → Bool
  | hugePlace => true
  | character code => 0x80000000 ≤ code
  | _ => false

def message : NoSuchValue → String
  | noDigits base => "invalid literal for int() with base " ++ toString base ++ ": ''"
  | tooManyDigits count =>
    "Exceeds the limit (" ++ toString digitLimit ++
      " digits) for integer string conversion: value has " ++ toString count ++
      " digits; use sys.set_int_max_str_digits() to increase the limit"
  | hugePlace => "int too large to convert to float"
  | offset minutes =>
    "offset must be a timedelta strictly between -timedelta(hours=24) and timedelta(hours=24), " ++
      "not " ++ spanText minutes ++ "."
  | year => "year 0 is out of range"
  | month => "month must be in 1..12"
  | day => "day is out of range for month"
  | hour => "hour must be in 0..23"
  | minute => "minute must be in 0..59"
  | second => "second must be in 0..59"
  | character code =>
    if code < 0x80000000 then "chr() arg not in range(0x110000)"
    else "Python int too large to convert to C int"

end NoSuchValue

inductive Fault
  | malformed
  | noSuchValue (reason : NoSuchValue)
  deriving DecidableEq

/-- What is there, or else a fault of form. -/
def required {α : Type} : Option α → Except Fault α
  | some found => .ok found
  | none => .error .malformed

end Connexive.Yaml
