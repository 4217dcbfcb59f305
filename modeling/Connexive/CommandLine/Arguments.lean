import Connexive.Text.CharClass
import Connexive.Text.Quoted

namespace Connexive

/-!
The arguments of the program. A long option may be shortened as long as it stays the only one, and
takes a value after an equals sign or from the next argument; the value of the short one may follow
it directly. No argument that looks like an option is taken as a value, and none stands alone.
-/

inductive Flag
  | help
  | config
  | debug
  | execute
  | script
  deriving DecidableEq

namespace Flag

/-- The flag as messages name it. -/
def name : Flag → String
  | help => "-h/--help"
  | config => "--config"
  | debug => "--debug"
  | execute => "-e/--execute"
  | script => "--script"

def takesValue : Flag → Bool
  | help | debug => false
  | config | execute | script => true

def long : List (String × Flag) :=
  [("--help", help), ("--config", config), ("--debug", debug), ("--execute", execute),
    ("--script", script)]

def short : List (Char × Flag) :=
  [('h', help), ('e', execute)]

end Flag

/-- What the arguments ask for. -/
structure Request where
  config : Option String
  debug : Bool
  commands : List String
  script : Option String
  deriving DecidableEq

inductive Invocation
  | showHelp
  | run (request : Request)

inductive UsageFault
  | expectedArgument (flag : Flag)
  | ignoredArgument (flag : Flag) (text : String)
  | ambiguous (argument : String) (candidates : List String)
  | unrecognized (arguments : List String)

def UsageFault.message : UsageFault → String
  | expectedArgument flag => "argument " ++ flag.name ++ ": expected one argument"
  | ignoredArgument flag text =>
    "argument " ++ flag.name ++ ": ignored explicit argument " ++ Text.quote text
  | ambiguous argument candidates =>
    "ambiguous option: " ++ argument ++ " could match " ++ ", ".intercalate candidates
  | unrecognized arguments => "unrecognized arguments: " ++ " ".intercalate arguments

/-- How an argument reads by itself. What is attached to an option follows it after an equals sign
or, if the option is a short one, directly. -/
inductive Reading
  | positional
  | unknown
  | option (flag : Flag) (isLong : Bool) (attached : Option String)

namespace Reading

/-- A minus sign before digits, with or without a point among them. A line feed may end it. -/
def isNegativeNumber (text : List Char) : Bool :=
  let body := if text.getLast? = some '\n' then text.dropLast else text
  match body with
  | '-' :: number =>
    let whole := number.takeWhile Text.isDecimalDigit
    match number.drop whole.length with
    | [] => !whole.isEmpty
    | '.' :: fraction => !fraction.isEmpty && fraction.all Text.isDecimalDigit
    | _ => false
  | _ => false

/-- The reading of what starts with a dash and names no option. -/
def unnamed (text : List Char) : Reading :=
  if isNegativeNumber text || text.contains ' ' then positional else unknown

def attachedAfter (text name : List Char) : Option String :=
  match text.drop name.length with
  | '=' :: value => some (String.ofList value)
  | _ => none

/-- The reading of what starts with two dashes. -/
def ofLong (argument : String) : Except UsageFault Reading :=
  let text := argument.toList
  let name := text.takeWhile (· != '=')
  match Flag.long.find? (·.1 == argument), Flag.long.find? (·.1.toList == name) with
  | some found, _ => .ok (option found.2 true none)
  | none, some found => .ok (option found.2 true (attachedAfter text name))
  | none, none =>
    match Flag.long.filter fun candidate => name.isPrefixOf candidate.1.toList with
    | [] => .ok (unnamed text)
    | [found] => .ok (option found.2 true (attachedAfter text name))
    | candidates => .error (.ambiguous argument (candidates.map Prod.fst))

/-- The reading of what starts with a dash and the letter `c`, followed by `rest`. -/
def ofShort (c : Char) (rest : List Char) : Reading :=
  match Flag.short.lookup c with
  | none => unnamed ('-' :: c :: rest)
  | some flag =>
    match rest with
    | [] => option flag false none
    | '=' :: value => option flag false (some (String.ofList value))
    | _ => option flag false (some (String.ofList rest))

def ofArgument (argument : String) : Except UsageFault Reading :=
  match argument.toList with
  | '-' :: '-' :: _ => ofLong argument
  | '-' :: c :: rest => .ok (ofShort c rest)
  | _ => .ok positional

/-- The arguments with their readings. After two dashes that stand alone nothing is an option; the
dashes themselves are neither an option nor a value. -/
def ofArguments : List String → Except UsageFault (List (String × Reading))
  | [] => .ok []
  | argument :: rest =>
    if argument = "--" then
      .ok ((argument, unknown) :: rest.map fun other => (other, positional))
    else
      match ofArgument argument, ofArguments rest with
      | .ok reading, .ok readings => .ok ((argument, reading) :: readings)
      | .error fault, _ => .error fault
      | .ok _, .error fault => .error fault

end Reading

namespace Request

/-- What is no value even where it is directly given to an option as one. -/
def noValue : String := "--"

def empty : Request := ⟨none, false, [], none⟩

/-- The request with the value of an option. The last file of a kind stands, and commands add
up. -/
def set (request : Request) (value : String) : Flag → Request
  | .config => { request with config := some value }
  | .execute => { request with commands := request.commands ++ [value] }
  | .script => { request with script := some value }
  | .help | .debug => request

end Request

/-- Checks the letters that are attached to the help option. They are short options in their turn,
up to one that takes a value: that is the rest of the letters, or the next argument. -/
def helpCluster (valueFollows : Bool) : List Char → Except UsageFault Unit
  | [] => .ok ()
  | c :: more =>
    match Flag.short.lookup c with
    | none => .error (.ignoredArgument .help (String.ofList (c :: more)))
    | some flag =>
      if !flag.takesValue then helpCluster valueFollows more
      else if more.isEmpty && !valueFollows then .error (.expectedArgument flag)
      else .ok ()

/-- Whether the next argument can be a value. -/
def valueFollows : List (String × Reading) → Bool
  | (_, .positional) :: _ => true
  | _ => false

/-- What an option that takes no value does with what is attached to it. -/
def refuseAttached (flag : Flag) (isLong follows : Bool) : Option String → Except UsageFault Unit
  | none => .ok ()
  | some text =>
    if isLong || text.isEmpty then .error (.ignoredArgument flag text)
    else helpCluster follows text.toList

/-- Carries the options out from left to right. `extras` holds the arguments that are none. -/
def interpret (request : Request) (extras : List String) :
    List (String × Reading) → Except UsageFault Invocation
  | [] => if extras.isEmpty then .ok (.run request) else .error (.unrecognized extras)
  | (argument, .positional) :: rest => interpret request (extras ++ [argument]) rest
  | (argument, .unknown) :: rest => interpret request (extras ++ [argument]) rest
  | (_, .option flag isLong attached) :: rest =>
    if flag.takesValue then
      match attached with
      | some value => interpret (request.set value flag) extras rest
      | none =>
        match rest with
        | (value, .positional) :: others => interpret (request.set value flag) extras others
        | _ => .error (.expectedArgument flag)
    else
      match refuseAttached flag isLong (valueFollows rest) attached with
      | .error fault => .error fault
      | .ok () =>
        if flag = .help then .ok .showHelp
        else interpret { request with debug := true } extras rest

/-- What a list of arguments asks for. -/
def Invocation.ofArguments (arguments : List String) : Except UsageFault Invocation :=
  match Reading.ofArguments arguments with
  | .ok readings => interpret .empty [] readings
  | .error fault => .error fault

end Connexive
