import Connexive.Text.Lines
import Connexive.Yaml.Digits
import Connexive.Yaml.Fault

namespace Connexive.Yaml.Number

/-!
The numbers that plain scalars stand for: integers in several bases and decimal numbers. Colons part
the places of a number to base 60. A scalar may have the form of a number that there is not.
-/

def dropSign : List Char → List Char
  | c :: rest => if isSign c then rest else c :: rest
  | [] => []

def isNegative (text : List Char) : Bool :=
  text.head? == some '-'

/-- Whether a text is a place below the first of a number to base 60. -/
def isSixtieth : List Char → Bool
  | [c] => isDigit c
  | [c, d] => '0' ≤ c && c ≤ '5' && isDigit d
  | _ => false

/-- The number to base 60 of places, the highest first. -/
def natOfSixtieths (places : List (List Char)) : Nat :=
  places.foldl (fun number place => 60 * number + natOfDigits 10 place) 0

/-- The number behind the mark of a base. -/
def natOfBase (base : Nat) (text : List Char) : Except NoSuchValue Nat :=
  if (digitsOf text).isEmpty then .error (.noDigits base) else .ok (natOfDigits base text)

/-- The magnitude of an integer. -/
def magnitude? (text : List Char) : Option (Except NoSuchValue Nat) :=
  match text with
  | '0' :: 'b' :: rest =>
    if !rest.isEmpty && areDigits (fun c => c == '0' || c == '1') rest then
      some (natOfBase 2 rest)
    else none
  | '0' :: 'x' :: rest =>
    if !rest.isEmpty && areDigits isHexDigit rest then some (natOfBase 16 rest) else none
  | '0' :: rest =>
    if areDigits isOctalDigit rest then some (.ok (natOfDigits 8 rest)) else none
  | _ =>
    match Text.split ':' text with
    | [] => none
    | first :: places =>
      if startsWithDigit first && places.all isSixtieth then
        let count := (digitsOf first).length
        if NoSuchValue.digitLimit < count then some (.error (.tooManyDigits count))
        else some (.ok (natOfSixtieths (first :: places)))
      else none

def int? (text : List Char) : Option (Except NoSuchValue Int) :=
  (magnitude? (dropSign text)).map fun magnitude =>
    magnitude.map fun number => if isNegative text then -(number : Int) else number

/-- The floating-point number nearest to `digits` times the power of ten. A number of more than 310
places before the point is past every finite one, and one that only begins 330 places behind it is
too small to tell from zero. -/
def scaled (digits : Nat) (exponent : Int) : Float :=
  let places : Int := exponent + (Nat.toDigits 10 digits).length
  if digits = 0 || places < -330 then 0.0
  else if 310 < places then 1.0 / 0.0
  else Float.ofScientific digits (exponent < 0) exponent.natAbs

/-- The exponent that follows a decimal number: nothing, or a letter, a sign and digits. -/
def exponent? (text : List Char) : Option Int :=
  match text with
  | [] => some 0
  | letter :: sign :: digits =>
    if (letter == 'e' || letter == 'E') && isSign sign && !digits.isEmpty && digits.all isDigit then
      some (if sign == '-' then -(natOfDigits 10 digits : Int) else natOfDigits 10 digits)
    else none
  | _ => none

/-- The decimal number of digits before and behind a point, times a power of ten. -/
def decimal (whole fraction : List Char) (exponent : Int) : Float :=
  scaled (natOfDigits 10 (whole ++ fraction)) (exponent - (digitsOf fraction).length)

/-- A decimal number of digits around a point, with or without an exponent. -/
def decimal? (whole rest : List Char) : Option Float :=
  let fraction := rest.takeWhile fun c => isDigit c || c == '_'
  (exponent? (rest.drop fraction.length)).map (decimal whole fraction)

/-- The most places to base 60 of which each counts a finite floating-point number. -/
def placeLimit : Nat := 174

/-- Adds up places to base 60, the lowest first, of which the next counts `unit`. -/
def sumOfSixtieths (sum : Float) (unit : Nat) : List Float → Float
  | [] => sum
  | place :: higher => sumOfSixtieths (sum + place * scaled unit 0) (60 * unit) higher

/-- A number to base 60 with a fraction behind its last place. -/
def sixtiethDecimal? (whole fraction : List Char) : Option (Except NoSuchValue Float) :=
  match Text.split ':' whole with
  | first :: second :: others =>
    let places := first :: second :: others
    if startsWithDigit first && (second :: others).all isSixtieth && areDigits isDigit fraction then
      if placeLimit < places.length then some (.error .hugePlace)
      else
        let lowest := decimal (places.getLast?.getD []) fraction 0
        let higher := places.dropLast.reverse.map fun place => decimal place [] 0
        some (.ok (sumOfSixtieths 0.0 1 (lowest :: higher)))
    else none
  | _ => none

/-- The magnitude of a number with a point. Without a sign it may begin with the point. -/
def floatMagnitude? (signed : Bool) (text : List Char) : Option (Except NoSuchValue Float) :=
  let whole := text.takeWhile (· != '.')
  match text.drop whole.length with
  | [] => none
  | _ :: rest =>
    if whole.isEmpty then
      if ["inf", "Inf", "INF"].contains (String.ofList rest) then some (.ok (1.0 / 0.0))
      else if signed then none
      else if ["nan", "NaN", "NAN"].contains (String.ofList rest) then some (.ok (0.0 / 0.0))
      else if rest.head?.elim false isDigit then (decimal? [] rest).map .ok
      else none
    else if startsWithDigit whole then (decimal? whole rest).map .ok
    else sixtiethDecimal? whole rest

def float? (text : List Char) : Option (Except NoSuchValue Float) :=
  let unsigned := dropSign text
  (floatMagnitude? (unsigned.length != text.length) unsigned).map fun magnitude =>
    magnitude.map fun number => if isNegative text then -number else number

end Connexive.Yaml.Number
