import Connexive.Domain.ForAll
import Connexive.Text.Lines

namespace Connexive.Report

/-! What the session prints, line by line. -/

open Text

def repeated (fill : String) (count : Nat) : String :=
  String.join (List.replicate count fill)

/-- A rule of 52 fills, with the title in its middle and the odd fill on its right. A title too long
for the rule stands alone between two spaces. -/
def banner (title fill : String) : String :=
  if title.isEmpty then repeated fill 52
  else
    let room := 50 - title.length
    repeated fill (room / 2) ++ " " ++ title ++ " " ++ repeated fill (room - room / 2)

def classicalLines (evaluation : Evaluation) : List String :=
  match evaluation.classicalValue with
  | none => []
  | some value =>
    ["Classical Result: " ++ verdictWord value ++
      (if evaluation.isNonClassical then " (non-classical result)" else "")]

/-- The report on a formula, given by its canonical text, for one object. -/
def query (formula objectName : String) (evaluation : Evaluation) : List String :=
  ["", banner "QUERY RESULT" "=", "Expression: " ++ formula, "For Object: " ++ objectName,
    "Final Result: " ++ verdictWord evaluation.value] ++
  classicalLines evaluation ++
  [banner "Derivation" "-"] ++ evaluation.derivation ++ [banner "" "="]

/-- The report on a formula, given by its canonical text, for every object. -/
def forAll (formula : String) (verdict : UniversalVerdict) : List String :=
  ["Expression: " ++ formula, "Result for ALL objects: " ++ verdictWord verdict.value] ++
  (if verdict.failing.isEmpty then [] else ["Fails for: " ++ ", ".intercalate verdict.failing]) ++
  Text.lines (verdict.reason.getD "")

def help : List String :=
  ["",
    "--- Core Principles ---",
    "1. FINITE DOMAIN: The 'forall' quantifier is ALWAYS restricted to a known set.",
    "2. RELEVANT IMPLICATION: The system exclusively uses a stricter, multi-layered implication.",
    "",
    "--- Available Commands ---",
    "domain add <ObjectName>                  - Adds an object to the finite universe.",
    "fact <ObjectName> \"<predicate>\" [false]  - Defines an atomic predicate for an object (true by default).",
    "query <ObjectName> <Expression>?         - Evaluates an expression for a specific object.",
    "check forall <Expression>?               - Evaluates an expression for all objects in the domain.",
    "state                                    - Shows all objects and their facts.",
    "help                                     - Shows this help message.",
    "clear                                    - Clears the screen.",
    "exit                                     - Exits the program.",
    "",
    "--- Expression Syntax ---",
    "Use parentheses () for grouping.",
    "Predicates: \"is mortal\", etc. (use quotes for multi-word predicates).",
    "Operators (by precedence): NOT > AND > OR > RELEVANTLY_IMPLIES.",
    "  RELEVANTLY_IMPLIES is true if and only if:",
    "    a) the classical condition (NOT P OR Q) is true, AND",
    "    b) Q introduces no predicates absent from P (relevance), AND",
    "    c) the structure is coherent (Aristotle's and Boethius's Theses).",
    "",
    "Example: query socrates ( \"is human\" AND \"is greek\" ) RELEVANTLY_IMPLIES \"is human\" ?",
    banner "" "-"]

end Connexive.Report
