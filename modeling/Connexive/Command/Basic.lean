import Connexive.Command.Word
import Connexive.Formula.Parse
import Connexive.Text.Case

namespace Connexive

/-! The commands of a session and the ways in which one can be refused. -/

inductive Command
  | addObject (name : String)
  | stateFact (object predicate : String) (value : Bool)
  | query (object : String) (expression : List String)
  | checkForAll (expression : List String)
  | showState
  | showHelp
  | exit
  | clear

/-- The first word of a command. -/
inductive Verb
  | domain
  | fact
  | query
  | check
  | state
  | help
  | exit
  | clear
  deriving DecidableEq

inductive Refusal
  | domainUsage
  | factUsage
  | truthValue (word : String)
  | queryUsage
  | checkUsage
  | duplicateObject (name : String)
  | objectNotFound (name : String)
  | expression (cause : ParseCause)

def Refusal.message : Refusal → String
  | domainUsage => "Invalid 'domain' command. Use: domain add <ObjectName>"
  | factUsage =>
    "Invalid 'fact' command. Use: fact <ObjectName> \"<predicate>\" [true|false]"
  | truthValue word => "Invalid truth value '" ++ word ++ "'. Use true or false."
  | queryUsage => "Invalid 'query' command. Use: query <ObjectName> <Expression>?"
  | checkUsage => "Invalid 'check' command. Use: check forall <Expression>?"
  | duplicateObject name => "Object '" ++ name ++ "' already exists in the domain."
  | objectNotFound name => "Object '" ++ name ++ "' not found."
  | expression cause => cause.message

/-- The verb of a word in lower case. -/
def Verb.ofWord? (word : String) : Option Verb :=
  [("domain", domain), ("fact", fact), ("query", query), ("check", check), ("state", state),
    ("help", help), ("exit", exit), ("quit", exit), ("clear", clear)].lookup word

def truthOfWord? (word : String) : Option Bool :=
  [("true", true), ("false", false)].lookup (Text.lower word)

/-- The command of a verb and the words after it. Verbs that take no arguments ignore them. -/
def Verb.command : Verb → List String → Except Refusal Command
  | domain, arguments =>
    match arguments with
    | [action, name] =>
      if Text.lower action = "add" then .ok (.addObject name) else .error .domainUsage
    | _ => .error .domainUsage
  | fact, arguments =>
    match arguments with
    | [object, predicate] => .ok (.stateFact object predicate true)
    | [object, predicate, word] =>
      match truthOfWord? word with
      | some value => .ok (.stateFact object predicate value)
      | none => .error (.truthValue word)
    | _ => .error .factUsage
  | query, arguments =>
    match arguments with
    | object :: word :: rest => .ok (.query object (dropQuestionMark (word :: rest)))
    | _ => .error .queryUsage
  | check, arguments =>
    match arguments with
    | quantifier :: word :: rest =>
      if Text.lower quantifier = "forall" then .ok (.checkForAll (dropQuestionMark (word :: rest)))
      else .error .checkUsage
    | _ => .error .checkUsage
  | state, _ => .ok .showState
  | help, _ => .ok .showHelp
  | exit, _ => .ok .exit
  | clear, _ => .ok .clear

end Connexive
