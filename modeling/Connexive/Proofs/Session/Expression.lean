import Connexive.Proofs.Session.Question

namespace Connexive

/-! The commands that end in an expression. What stands before the expression is a piece of its own,
so the expression is cut and read alike behind either command, and its faults are told alike.
-/

def checkLine (text : String) : String :=
  "check forall " ++ text

/-- The formula that a text asks about, or the message of what is wrong with the text. -/
def Formula.ofText (text : String) : Except String Formula :=
  match tokenize text with
  | .error fault => .error fault.message
  | .ok words =>
    match Formula.read (dropQuestionMark words) with
    | .error cause => .error cause.message
    | .ok formula => .ok formula

variable {session : Session} {object : Object} {line name text : String}

theorem tokenize_checkLine (text : String) :
    tokenize (checkLine text) = (tokenize text).map (["check", "forall"] ++ ·) := by
  have verb : CutInto ("check".toList ++ [' ']) ["check"] :=
    .bare (by decide) (Lexeme.isBare_of_all (by decide))
  have quantifier : CutInto ("forall".toList ++ [' ']) ["forall"] :=
    .bare (by decide) (Lexeme.isBare_of_all (by decide))
  exact (verb.append quantifier).tokenize_append (by simp [checkLine])

theorem ofLine?_queryLine {word : String} {rest : List String} (quotable : Quotable name)
    (cut : tokenize text = .ok (word :: rest)) :
    Command.ofLine? (queryLine name text) =
      some (.query name (dropQuestionMark (word :: rest))) := by
  have whole := tokenize_queryLine quotable text
  rw [cut] at whole
  exact Command.ofLine?_eq_some_iff.mpr
    ⟨"query", name :: word :: rest, .query, whole, by decide, rfl⟩

theorem ofLine?_checkLine {word : String} {rest : List String}
    (cut : tokenize text = .ok (word :: rest)) :
    Command.ofLine? (checkLine text) =
      some (.checkForAll (dropQuestionMark (word :: rest))) := by
  have whole := tokenize_checkLine text
  rw [cut] at whole
  have written : Verb.check.command ("forall" :: word :: rest) =
      .ok (.checkForAll (dropQuestionMark (word :: rest))) := by
    have quantifier : Text.lower "forall" = "forall" := by decide
    unfold Verb.command
    dsimp only
    rw [if_pos quantifier]
  exact Command.ofLine?_eq_some_iff.mpr
    ⟨"check", "forall" :: word :: rest, .check, whole, by decide, written⟩

namespace Session

theorem reply_of_fault {fault : WordFault} (cut : tokenize line = .error fault) :
    (session.execute line).reply = .failure ("Error: " ++ fault.message) := by
  rw [execute, cut]

/-- A line whose command takes the expression behind some leading words is answered by the formula
that the text gives, if all that can still be refused is the text. -/
theorem reply_of_expression {leading : List String} {command : List String → Command}
    {answer : Formula → Reply} (cut : tokenize line = (tokenize text).map (leading ++ ·))
    (given : ∀ word rest, tokenize text = .ok (word :: rest) →
      Command.ofLine? line = some (command (dropQuestionMark (word :: rest))))
    (ran : ∀ expression, session.run (command expression) =
      (readFormula expression).map fun formula => (answer formula, session))
    (spoken : tokenize text ≠ .ok []) :
    (session.execute line).reply =
      match Formula.ofText text with
      | .error message => .failure ("Error: " ++ message)
      | .ok formula => answer formula := by
  cases words : tokenize text with
  | error fault =>
      rw [words] at cut
      simp only [Formula.ofText, words]
      exact reply_of_fault cut
  | ok list =>
      cases list with
      | nil => contradiction
      | cons word rest =>
          have commanded := given word rest words
          have outcome := ran (dropQuestionMark (word :: rest))
          simp only [Formula.ofText, words]
          rw [readFormula] at outcome
          cases read : Formula.read (dropQuestionMark (word :: rest)) with
          | error cause =>
              rw [read] at outcome
              exact (execute_of_refusal commanded outcome).1
          | ok formula =>
              rw [read] at outcome
              exact (execute_of_run commanded outcome).1

/-- Behind `query` and the name of a known object, a text is asked of that object. -/
theorem reply_queryLine (quotable : Quotable name)
    (found : session.domain.find? name = some object) (spoken : tokenize text ≠ .ok []) :
    (session.execute (queryLine name text)).reply =
      match Formula.ofText text with
      | .error message => .failure ("Error: " ++ message)
      | .ok formula =>
        .ofLines (Report.query formula.render object.name (formula.evaluate object)) := by
  apply reply_of_expression (tokenize_queryLine quotable text)
    (fun _ _ => ofLine?_queryLine quotable) _ spoken
  intro expression
  rw [run, find_eq_ok_iff.mpr found]
  cases readFormula expression <;> rfl

/-- Behind `check forall`, a text is asked of the whole domain. -/
theorem reply_checkLine (spoken : tokenize text ≠ .ok []) :
    (session.execute (checkLine text)).reply =
      match Formula.ofText text with
      | .error message => .failure ("Error: " ++ message)
      | .ok formula => .ofLines (Report.forAll formula.render (session.domain.forAll formula)) := by
  apply reply_of_expression (tokenize_checkLine text) (fun _ _ => ofLine?_checkLine) _ spoken
  intro expression
  rw [run]
  cases readFormula expression <;> rfl

end Session

end Connexive
