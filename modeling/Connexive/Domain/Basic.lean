import Connexive.Object

namespace Connexive

/-!
The finite universe of discourse: objects in the order in which they were added. No two have names
that agree in lower case, because `add` refuses the second.
-/

structure Domain where
  objects : List Object

namespace Domain

def empty : Domain := ⟨[]⟩

/-- The object of a name, in letters of any case. -/
def find? (domain : Domain) (name : String) : Option Object :=
  domain.objects.find? (·.key == Text.lower name)

def contains (domain : Domain) (name : String) : Bool :=
  (domain.find? name).isSome

/-- The domain with one object more, or nothing where the name is taken. -/
def add? (domain : Domain) (object : Object) : Option Domain :=
  if domain.contains object.name then none else some ⟨domain.objects ++ [object]⟩

/-- States a fact about the object of a name. -/
def state (domain : Domain) (name predicate : String) (value : Bool) : Domain :=
  ⟨domain.objects.map fun object =>
    if object.key == Text.lower name then object.state predicate value else object⟩

def names (domain : Domain) : List String :=
  domain.objects.map Object.name

def render (domain : Domain) : String :=
  if domain.objects.isEmpty then "Domain is empty."
  else
    "\n".intercalate
      ("Domain State:" :: domain.objects.map fun object => "  - " ++ object.render)

end Domain

end Connexive
