import Connexive.Value
import Connexive.Yaml.Number
import Connexive.Yaml.Timestamp

namespace Connexive.Yaml

/-!
Scalars and the values that they stand for. Of the plain ones these are the words for null and the
truth values, numbers and timestamps, and texts for all else.
-/

/-- A scalar as far as its value depends on how it is written. -/
inductive Literal
  | plain (text : String)
  | quoted (text : String)
  /-- A quoted text with escapes of surrogates, pairs of which are joined. -/
  | surrogates (text : String)
  deriving DecidableEq

namespace Scalar

def nullWords : List String := ["", "~", "null", "Null", "NULL"]

def trueWords : List String :=
  ["yes", "Yes", "YES", "true", "True", "TRUE", "on", "On", "ON"]

def falseWords : List String :=
  ["no", "No", "NO", "false", "False", "FALSE", "off", "Off", "OFF"]

/-- Words that direct how a document is put together and are no values. -/
def directiveWords : List String := ["<<", "="]

/-- The value of a number, if there is one. -/
def numeric {α : Type} (value : α → Value) (number : Except NoSuchValue α) : Except Fault Value :=
  (number.map value).mapError .noSuchValue

def timestamp (text : String) (time : Timestamp) : Except Fault Value :=
  match time.fault? with
  | some reason => .error (.noSuchValue reason)
  | none => .ok (.timestamp text)

/-- The value of a plain scalar. -/
def resolve (text : String) : Except Fault Value :=
  if directiveWords.contains text then .error .malformed
  else if nullWords.contains text then .ok .null
  else if trueWords.contains text then .ok (.bool true)
  else if falseWords.contains text then .ok (.bool false)
  else
    let chars := text.toList
    match Number.int? chars, Number.float? chars, Timestamp.ofText? chars with
    | some number, _, _ => numeric Value.int number
    | none, some number, _ => numeric Value.float number
    | none, none, some time => timestamp text time
    | none, none, none => .ok (.text text)

end Scalar

def Literal.value : Literal → Except Fault Value
  | plain text => Scalar.resolve text
  | quoted text => .ok (.text text)
  | surrogates text => .ok (.surrogateText text)

/-- The value as a key, where an equals sign is a text. -/
def Literal.key (literal : Literal) : Except Fault Value :=
  if literal = .plain "=" then .ok (.text "=") else literal.value

end Connexive.Yaml
