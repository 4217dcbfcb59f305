import Connexive.Domain.Basic

namespace Connexive

/-!
Objects at work under handles, beside the domain that they may join. Once an object has joined, its
handle stands for the member of the domain, so that a fact stated through it is a fact of the
domain.
-/

inductive Holding
  | loose (object : Object)
  | member (name : String)

structure Workbench where
  domain : Domain
  holdings : List (String × Holding)

namespace Workbench

def empty : Workbench := ⟨.empty, []⟩

/-- Puts a new object under a handle. A member that was there stays in the domain. -/
def make (bench : Workbench) (handle name : String) : Workbench :=
  { bench with holdings := Assoc.put handle (.loose (.named name)) bench.holdings }

def object? (bench : Workbench) (handle : String) : Option Object :=
  match bench.holdings.lookup handle with
  | none => none
  | some (.loose object) => some object
  | some (.member name) => bench.domain.find? name

/-- Lets the object under a handle join the domain, unless its name is taken. -/
def join? (bench : Workbench) (handle : String) (object : Object) : Option Workbench :=
  (bench.domain.add? object).map fun domain =>
    ⟨domain, Assoc.put handle (.member object.name) bench.holdings⟩

/-- States a fact about the object under a handle. -/
def state (bench : Workbench) (handle predicate : String) (value : Bool) : Workbench :=
  match bench.holdings.lookup handle with
  | none => bench
  | some (.loose object) =>
    { bench with
      holdings := Assoc.put handle (.loose (object.state predicate value)) bench.holdings }
  | some (.member name) => { bench with domain := bench.domain.state name predicate value }

def Holding.isMember (name : String) : Holding → Bool
  | .loose _ => false
  | .member held => Text.lower held == Text.lower name

/-- The handle of the member of a name. -/
def handle? (bench : Workbench) (name : String) : Option String :=
  if bench.domain.contains name then
    (bench.holdings.find? fun holding => Holding.isMember name holding.2).map Prod.fst
  else none

end Workbench

end Connexive
