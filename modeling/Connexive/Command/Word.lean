import Connexive.Text.CharClass

namespace Connexive

/-!
The words of a command line. Text between double quotes is one word as it stands; outside quotes a
parenthesis is a word of its own and blanks part the others.
-/

inductive Lexeme
  | bare (text : List Char)
  | quoted (text : List Char)
  deriving DecidableEq

inductive WordFault
  | unbalancedQuote
  | emptyQuotes
  deriving DecidableEq

def WordFault.message : WordFault → String
  | unbalancedQuote => "Unbalanced quote in command."
  | emptyQuotes => "Empty predicate name in quotes."

namespace Lexeme

/-- The bare word that ends, if one was begun. `run` holds its characters, last first. -/
def endRun (run : List Char) : List Lexeme :=
  if run.isEmpty then [] else [.bare run.reverse]

/-- The lexemes of the rest of a line. `run` holds the characters of the one begun, last first. A
quote that is never closed yields no lexeme. -/
def scan (inQuotes : Bool) (run : List Char) : List Char → List Lexeme
  | [] => if inQuotes then [] else endRun run
  | c :: rest =>
    if inQuotes then
      if c = '"' then .quoted run.reverse :: scan false [] rest
      else scan true (c :: run) rest
    else if c = '"' then
      endRun run ++ scan true [] rest
    else if c = '(' || c = ')' then
      endRun run ++ .bare [c] :: scan false [] rest
    else if Text.isBlank c then
      endRun run ++ scan false [] rest
    else
      scan false (c :: run) rest

/-- The word of a lexeme. Quotes have to hold more than blanks. -/
def word : Lexeme → Except WordFault String
  | bare text => .ok (String.ofList text)
  | quoted text => if text.all Text.isBlank then .error .emptyQuotes else .ok (String.ofList text)

def words : List Lexeme → Except WordFault (List String)
  | [] => .ok []
  | lexeme :: rest =>
    match lexeme.word with
    | .error fault => .error fault
    | .ok text => (words rest).map (text :: ·)

end Lexeme

/-- The words of a line, unless a quote is left open or one is empty. -/
def tokenize (line : String) : Except WordFault (List String) :=
  if line.toList.count '"' % 2 = 1 then .error .unbalancedQuote
  else Lexeme.words (Lexeme.scan false [] line.toList)

/-- The words without one question mark at the end of the last. A last word that is nothing else
goes with it. -/
def dropQuestionMark : List String → List String
  | [] => []
  | [last] =>
    if last.toList.getLast? = some '?' then
      let rest := last.toList.dropLast
      if rest.isEmpty then [] else [String.ofList rest]
    else [last]
  | word :: rest => word :: dropQuestionMark rest

end Connexive
