import Connexive.Formula.Parse
import Connexive.Log.Basic
import Connexive.Text.Quoted

namespace Connexive

/-!
What the reading of a formula reports to the log: the tokens, the stacks after each of them, and
the formula or what was left instead of one. A refusal at a token ends the reports.
-/

inductive ParseEvent
  | started (tokens : List String)
  | reached (token : String) (state : ParseState)
  | leftOver (operands : List Formula)
  | finished (formula : Formula)

/-- The canonical texts of a stack of operands, the bottom first. -/
def renderOperands (operands : List Formula) : String :=
  Text.quoteList (operands.reverse.map Formula.render)

def Pending.text : Pending → String
  | paren => "("
  | connective op => op.keyword

namespace ParseEvent

def level : ParseEvent → LogLevel
  | leftOver _ => .error
  | _ => .debug

def message : ParseEvent → String
  | started tokens => "Parsing tokens: " ++ Text.quoteList tokens
  | reached token state =>
    "After " ++ Text.quote token ++ ": values=" ++ renderOperands state.operands ++
      " operators=" ++ Text.quoteList (state.pending.reverse.map Pending.text)
  | leftOver operands =>
    "Final parser check failed: " ++ toString operands.length ++ " values left (" ++
      renderOperands operands ++ ")"
  | finished formula => "Parsed expression: " ++ formula.render

def ofEnd (state : ParseState) : List ParseEvent :=
  match state.settle with
  | .error _ => []
  | .ok [formula] => [finished formula]
  | .ok operands => [leftOver operands]

def ofSteps (state : ParseState) : List String → List ParseEvent
  | [] => ofEnd state
  | token :: rest =>
    match state.step token with
    | .error _ => []
    | .ok next => reached token next :: ofSteps next rest

/-- The events of reading a token list. -/
def ofTokens (tokens : List String) : List ParseEvent :=
  started tokens :: if tokens.isEmpty then [] else ofSteps .start tokens

def record (source : String) (event : ParseEvent) : LogRecord :=
  ⟨event.level, some source, event.message⟩

end ParseEvent

/-- The records of reading a token list, made by the logger of a name. -/
def parseLog (source : String) (tokens : List String) : List LogRecord :=
  (ParseEvent.ofTokens tokens).map (ParseEvent.record source)

end Connexive
