import Connexive.Assoc

namespace Connexive

/-!
Plain data, as documents and callers hand it over: the scalars, lists and keyed objects.
-/

inductive Value
  | null
  | bool (value : Bool)
  | int (value : Int)
  | float (value : Float)
  | text (value : String)
  /-- A text in which surrogates are written. Pairs of them are joined in `value`. -/
  | surrogateText (value : String)
  /-- A date, with or without a time, as it is written. -/
  | timestamp (text : String)
  | list (items : List Value)
  | object (fields : List (String × Value))

namespace Value

/-- The name of a value's kind in messages. A timestamp with a time in it, which is written with
colons, is of another kind than a date alone. -/
def kind : Value → String
  | null => "NoneType"
  | bool _ => "bool"
  | int _ => "int"
  | float _ => "float"
  | text _ | surrogateText _ => "str"
  | timestamp written => if written.toList.contains ':' then "datetime" else "date"
  | list _ => "list"
  | object _ => "dict"

/-- Emptiness and zero count as false, all else as true. -/
def truthy : Value → Bool
  | null => false
  | bool value => value
  | int value => value != 0
  | float value => value != 0.0
  | text value => value != ""
  | surrogateText _ | timestamp _ => true
  | list items => !items.isEmpty
  | object fields => !fields.isEmpty

/-- The integer that a floating-point number is exactly. A finite number is its significand times a
power of two, from which nothing is rounded away here. -/
def whole? (number : Float) : Option Int :=
  let bits := number.toBits.toNat
  let exponent := (bits >>> 52) % 0x800
  let fraction := bits % 0x10000000000000
  let significand : Nat := if exponent = 0 then fraction else fraction + 0x10000000000000
  let scale : Nat := if exponent = 0 then 1 else exponent
  let numerator := significand <<< (scale - 1075)
  let denominator := 1 <<< (1075 - scale)
  if exponent = 2047 || numerator % denominator != 0 then none
  else
    let magnitude : Int := (numerator / denominator : Nat)
    some (if bits >>> 63 = 1 then -magnitude else magnitude)

/-- The integer that a truth value counts as. -/
def intOfBool (value : Bool) : Int :=
  if value then 1 else 0

/-- Equality of a number, or of a truth value counted as one, with another value. -/
def equalsInt (value : Int) : Value → Bool
  | bool other => intOfBool other == value
  | int other => other == value
  | float other => whole? other == some value
  | _ => false

/-- The object of a list of fields; the last value given for a key stands. -/
def ofFields (fields : List (String × Value)) : Value :=
  .object (fields.foldl (fun fields field => Assoc.put field.1 field.2 fields) [])

mutual

/-- Equality of the parts of plain data: numbers by what they amount to, truth values as one and
zero, objects without regard to order. All floats that are not a number count as one and the same
part. -/
def same : Value → Value → Bool
  | null, null => true
  | bool value, other => other.equalsInt (intOfBool value)
  | int value, other => other.equalsInt value
  | float value, float other => value == other || value.isNaN && other.isNaN
  | float value, bool other => whole? value == some (intOfBool other)
  | float value, int other => whole? value == some other
  | text value, text other => value == other
  | surrogateText value, surrogateText other => value == other
  | timestamp value, timestamp other => value == other
  | list items, list others => sameItems items others
  | object fields, object others => fields.length == others.length && sameFields fields others
  | _, _ => false

def sameItems : List Value → List Value → Bool
  | [], [] => true
  | item :: items, other :: others => same item other && sameItems items others
  | _, _ => false

def sameFields : List (String × Value) → List (String × Value) → Bool
  | [], _ => true
  | (key, value) :: rest, others =>
    (match others.lookup key with
      | some other => same value other
      | none => false) && sameFields rest others

end

/-- Equality of plain data. A float that is not a number, and no part of more, equals nothing. -/
def equals (value other : Value) : Bool :=
  match value with
  | float number => !number.isNaN && value.same other
  | _ => value.same other

end Value

end Connexive
