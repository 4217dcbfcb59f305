import Connexive.Assoc
import Connexive.Text.Case
import Connexive.Text.Quoted

namespace Connexive

/-!
One object of the domain and the facts stated about it. Facts are kept under the lower-case form of
their predicate, in the order in which each was first stated. A predicate that was never stated is
absent, which is not the same as being stated false.
-/

namespace Text

/-- A truth value in a derivation or a stored fact. -/
def truthWord (value : Bool) : String :=
  if value then "true" else "false"

/-- A truth value as a verdict. -/
def verdictWord (value : Bool) : String :=
  if value then "TRUE" else "FALSE"

end Text

structure Object where
  name : String
  facts : List (String × Bool)

namespace Object

/-- An object about which nothing is stated. -/
def named (name : String) : Object := ⟨name, []⟩

/-- The form of the name by which a domain tells objects apart. -/
def key (object : Object) : String :=
  Text.lower object.name

def state (object : Object) (predicate : String) (value : Bool) : Object :=
  { object with facts := Assoc.put (Text.lower predicate) value object.facts }

/-- What was stated about a predicate, if anything was. -/
def stated? (object : Object) (predicate : String) : Option Bool :=
  object.facts.lookup (Text.lower predicate)

/-- The truth of a predicate in a closed world: what was never stated is false. -/
def holds (object : Object) (predicate : String) : Bool :=
  (object.stated? predicate).getD false

def renderFact (fact : String × Bool) : String :=
  fact.1 ++ "=" ++ Text.truthWord fact.2

def renderFacts (facts : List (String × Bool)) : String :=
  if facts.isEmpty then "EMPTY" else ", ".intercalate (facts.map renderFact)

def render (object : Object) : String :=
  "DomainObject\x7bname='" ++ object.name ++ "', states=\x7b" ++ renderFacts object.facts ++
    "\x7d\x7d"

/-- The short text that names an object without its facts. -/
def label (object : Object) : String :=
  "DomainObject(" ++ Text.quote object.name ++ ")"

end Object

end Connexive
