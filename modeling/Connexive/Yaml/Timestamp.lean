import Connexive.Yaml.Digits
import Connexive.Yaml.Fault

namespace Connexive.Yaml

/-!
Timestamps: a date alone, or a date and a time with a letter or blanks between, and then perhaps an
offset from universal time. The form alone does not make a day or a time that there is.
-/

/-- A point in time. The offset is in minutes, the fraction of a second left out. -/
structure Timestamp where
  year : Nat
  month : Nat
  day : Nat
  hour : Nat
  minute : Nat
  second : Nat
  offset : Int

namespace Timestamp

def isBlank (c : Char) : Bool :=
  c == ' ' || c == '\t'

/-- A number of at least `least` and at most `most` digits, and the text behind it. -/
def number? (least most : Nat) (text : List Char) : Option (Nat × List Char) :=
  let digits := text.takeWhile isDigit
  if least ≤ digits.length && digits.length ≤ most then
    some (natOfDigits 10 digits, text.drop digits.length)
  else none

/-- A number behind the character `mark`. -/
def marked? (mark : Char) (least most : Nat) : List Char → Option (Nat × List Char)
  | c :: rest => if c = mark then number? least most rest else none
  | [] => none

/-- A date whose month and day have at least `least` digits, at midnight. -/
def date? (least : Nat) (text : List Char) : Option (Timestamp × List Char) := do
  let (year, rest) ← number? 4 4 text
  let (month, rest) ← marked? '-' least 2 rest
  let (day, rest) ← marked? '-' least 2 rest
  return (⟨year, month, day, 0, 0, 0, 0⟩, rest)

/-- The offset that ends a timestamp, none if nothing does. -/
def offset? (text : List Char) : Option Int :=
  match text.dropWhile isBlank with
  | [] => if text.isEmpty then some 0 else none
  | ['Z'] => some 0
  | sign :: rest =>
    if isSign sign then do
      let (hours, rest) ← number? 1 2 rest
      let (minutes, rest) ← if rest.isEmpty then some (0, []) else marked? ':' 2 2 rest
      let magnitude : Int := (60 * hours + minutes : Nat)
      if rest.isEmpty then some (if sign = '-' then -magnitude else magnitude) else none
    else none

/-- The date at the time that follows it. -/
def withTime? (date : Timestamp) (text : List Char) : Option Timestamp := do
  let (hour, rest) ← number? 1 2 text
  let (minute, rest) ← marked? ':' 2 2 rest
  let (second, rest) ← marked? ':' 2 2 rest
  let offset ← offset? (match rest with
    | '.' :: fraction => fraction.dropWhile isDigit
    | _ => rest)
  return { date with hour, minute, second, offset }

def ofText? (text : List Char) : Option Timestamp :=
  match date? 2 text, date? 1 text with
  | some (date, []), _ => some date
  | _, some (date, separator :: rest) =>
    if separator = 'T' || separator = 't' then date.withTime? rest
    else if isBlank separator then date.withTime? (rest.dropWhile isBlank)
    else none
  | _, _ => none

def isLeap (year : Nat) : Bool :=
  year % 4 = 0 && (year % 100 != 0 || year % 400 = 0)

def daysIn (year : Nat) : Nat → Nat
  | 2 => if isLeap year then 29 else 28
  | 4 | 6 | 9 | 11 => 30
  | _ => 31

/-- The demands on a timestamp, with what it lacks where one is not met. -/
def demands (time : Timestamp) : List (Bool × NoSuchValue) :=
  [(time.offset.natAbs < 1440, .offset time.offset), (time.year != 0, .year),
    (1 ≤ time.month && time.month ≤ 12, .month),
    (1 ≤ time.day && time.day ≤ daysIn time.year time.month, .day),
    (time.hour < 24, .hour), (time.minute < 60, .minute), (time.second < 60, .second)]

/-- The first demand that is not met. -/
def fault? (time : Timestamp) : Option NoSuchValue :=
  (time.demands.find? (!·.1)).map Prod.snd

end Timestamp

end Connexive.Yaml
