import Connexive.Formula.Basic

namespace Connexive

/-- The connective of a keyword in upper case. -/
def Connective.ofKeyword? (keyword : String) : Option Connective :=
  [not, and, or, implies].find? (·.keyword == keyword)

/-- The connective that a token writes, in letters of any case. -/
def Connective.ofToken? (token : String) : Option Connective :=
  ofKeyword? (Text.upper token)

/-- What a token is in a formula. -/
inductive Token
  | connective (op : Connective)
  | opening
  | closing
  | operand (name : String)

/-- Whatever is neither a keyword nor a parenthesis names an atom, the empty text included. -/
def Token.ofText (token : String) : Token :=
  match Connective.ofToken? token with
  | some op => .connective op
  | none =>
    if token = "(" then .opening
    else if token = ")" then .closing
    else .operand token

end Connexive
