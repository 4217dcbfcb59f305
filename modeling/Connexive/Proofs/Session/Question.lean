import Connexive.Proofs.Evaluation.Verdict
import Connexive.Proofs.Formula.Canonical
import Connexive.Proofs.Report.Result
import Connexive.Proofs.Session.Run

namespace Connexive

/-! The line that states a fact and the line that asks for it, with both names in quotes. Once the
line is cut, nothing tells that the predicate was quoted, so not every predicate can be asked for.
-/

def statementLine (name predicate : String) (value : Bool) : String :=
  "fact " ++ renderName name ++ " " ++ renderName predicate ++ " " ++ Text.truthWord value

def questionLine (name predicate : String) : String :=
  "query " ++ renderName name ++ " " ++ renderName predicate

/-- The line that asks an object for the expression of a text. -/
def queryLine (name text : String) : String :=
  "query " ++ renderName name ++ " " ++ text

/-- A predicate that is read as an atom, and whole, where it is all that a question asks. -/
structure Askable (predicate : String) : Prop where
  isOperand : Token.IsOperand predicate
  noQuestionMark : predicate.toList.getLast? ≠ some '?'

instance (predicate : String) : Decidable (Askable predicate) :=
  decidable_of_iff (Token.IsOperand predicate ∧ predicate.toList.getLast? ≠ some '?')
    ⟨fun parts => ⟨parts.1, parts.2⟩, fun askable => ⟨askable.1, askable.2⟩⟩

namespace Reply

/-- The reply shows this value as its result. -/
def Reports (reply : Reply) (value : Bool) : Prop :=
  Report.resultLine value ∈ reply.lines

def ShowsClosedWorld (reply : Reply) : Prop :=
  Heuristic.closedWorld.tag ∈ reply.lines

instance (reply : Reply) (value : Bool) : Decidable (reply.Reports value) :=
  inferInstanceAs (Decidable (Report.resultLine value ∈ reply.lines))

instance (reply : Reply) : Decidable reply.ShowsClosedWorld :=
  inferInstanceAs (Decidable (Heuristic.closedWorld.tag ∈ reply.lines))

end Reply

variable {session : Session} {object : Object} {formula : Formula} {name predicate : String}
  {value : Bool}

theorem tokenize_queryLine (quotable : Quotable name) (text : String) :
    tokenize (queryLine name text) = (tokenize text).map (["query", name] ++ ·) := by
  have verb : CutInto ("query".toList ++ [' ']) ["query"] :=
    .bare (by decide) (Lexeme.isBare_of_all (by decide))
  have whole := verb.append ((renderName_cut quotable).append CutInto.space)
  exact whole.tokenize_append (by simp [queryLine])

theorem tokenize_questionLine (quotableName : Quotable name) (quotable : Quotable predicate) :
    tokenize (questionLine name predicate) = .ok ["query", name, predicate] := by
  have asks : questionLine name predicate = queryLine name (renderName predicate) := rfl
  rw [asks, tokenize_queryLine quotableName, (renderName_cut quotable).tokenize_eq]
  rfl

theorem tokenize_statementLine (quotableName : Quotable name) (quotable : Quotable predicate) :
    tokenize (statementLine name predicate value) =
      .ok ["fact", name, predicate, Text.truthWord value] := by
  have verb : CutInto ("fact".toList ++ [' ']) ["fact"] :=
    .bare (by decide) (Lexeme.isBare_of_all (by decide))
  -- The truth value has no blank behind it, so it is not a piece but the end of the line.
  have begun := verb.append ((renderName_cut quotableName).append
    (CutInto.space.append ((renderName_cut quotable).append CutInto.space)))
  have nonempty : (Text.truthWord value).toList ≠ [] := by
    cases value <;> decide
  have bare : (Text.truthWord value).toList.all (Lexeme.IsBare ·) = true := by
    cases value <;> decide
  exact begun.tokenize_bare nonempty (Lexeme.isBare_of_all bare) (by simp [statementLine])

theorem ofLine?_questionLine (quotableName : Quotable name) (quotable : Quotable predicate) :
    Command.ofLine? (questionLine name predicate) =
      some (.query name (dropQuestionMark [predicate])) :=
  Command.ofLine?_eq_some_iff.mpr
    ⟨"query", [name, predicate], .query, tokenize_questionLine quotableName quotable,
      by decide, rfl⟩

theorem truthOfWord?_truthWord (value : Bool) :
    truthOfWord? (Text.truthWord value) = some value := by
  cases value <;> decide

theorem ofLine?_statementLine (quotableName : Quotable name) (quotable : Quotable predicate) :
    Command.ofLine? (statementLine name predicate value) =
      some (.stateFact name predicate value) := by
  have written : Verb.fact.command [name, predicate, Text.truthWord value] =
      .ok (.stateFact name predicate value) := by
    unfold Verb.command
    dsimp only
    rw [truthOfWord?_truthWord]
  exact Command.ofLine?_eq_some_iff.mpr
    ⟨"fact", _, .fact, tokenize_statementLine quotableName quotable, by decide, written⟩

namespace Formula

theorem read_word_iff {word : String} :
    read [word] = .ok formula ↔ Token.IsOperand word ∧ formula = .atom word := by
  have ofOperand (operand : Token.IsOperand word) : read [word] = .ok (.atom word) :=
    ((Infix.operand operand).loosen (by decide)).read_eq
  constructor
  · intro parsed
    have operand : Token.IsOperand word := by
      -- A formula has an atom, and the atoms are the operands.
      have names := names_of_read parsed
      cases Decidable.em (Token.IsOperand word) with
      | inl operand => exact operand
      | inr other =>
          rw [operandsOf_other other] at names
          exact absurd names formula.names_ne_nil
    rw [ofOperand operand] at parsed
    exact ⟨operand, (Except.ok.inj parsed).symm⟩
  · rintro ⟨operand, rfl⟩
    exact ofOperand operand

end Formula

theorem Askable.read_eq (askable : Askable predicate) :
    Formula.read (dropQuestionMark [predicate]) = .ok (.atom predicate) := by
  rw [dropQuestionMark, if_neg askable.noQuestionMark]
  exact Formula.read_word_iff.mpr ⟨askable.isOperand, rfl⟩

namespace Session

theorem run_query_iff {expression : List String} {outcome : Reply × Session} :
    session.run (.query name expression) = .ok outcome ↔
      ∃ object formula, session.domain.find? name = some object ∧
        Formula.read expression = .ok formula ∧
        (.ofLines (Report.query formula.render object.name (formula.evaluate object)), session) =
          outcome := by
  constructor
  · intro ran
    obtain ⟨object, found, ran⟩ := of_bind ran
    obtain ⟨formula, read, ran⟩ := of_bind ran
    exact ⟨object, formula, find_eq_ok_iff.mp found, mapError_eq_ok_iff.mp read,
      Except.ok.inj ran⟩
  · rintro ⟨object, formula, found, read, rfl⟩
    rw [run, find_eq_ok_iff.mpr found, readFormula, read]
    rfl

/-- A question is answered where its object is known and what is left of its predicate is read. -/
theorem execute_questionLine_ok_iff (quotableName : Quotable name) (quotable : Quotable predicate) :
    (session.execute (questionLine name predicate)).reply.ok = true ↔
      ∃ object formula, session.domain.find? name = some object ∧
        Formula.read (dropQuestionMark [predicate]) = .ok formula := by
  have given := ofLine?_questionLine quotableName quotable
  cases ran : session.run (.query name (dropQuestionMark [predicate])) with
  | error refusal =>
      obtain ⟨failed, _⟩ := execute_of_refusal given ran
      constructor
      · intro ok
        rw [failed] at ok
        contradiction
      · rintro ⟨object, formula, found, read⟩
        have answered := run_query_iff.mpr ⟨object, formula, found, read, rfl⟩
        rw [ran] at answered
        contradiction
  | ok outcome =>
      obtain ⟨object, formula, found, read, rfl⟩ := run_query_iff.mp ran
      obtain ⟨answered, _⟩ := execute_of_run given ran
      exact ⟨fun _ => ⟨object, formula, found, read⟩, fun _ => by rw [answered]; rfl⟩

/-- What the answer shows where all that is asked is whether `word` holds. -/
theorem answer_of_word {word : String} (quotableName : Quotable name)
    (quotable : Quotable predicate) (found : session.domain.find? name = some object)
    (read : Formula.read (dropQuestionMark [predicate]) = .ok (.atom word)) :
    let reply := (session.execute (questionLine name predicate)).reply
    (∀ value, reply.Reports value ↔ (object.stated? word).getD false = value) ∧
      (reply.ShowsClosedWorld ↔ object.stated? word = none) := by
  intro reply
  have ran := run_query_iff.mpr ⟨object, _, found, read, rfl⟩
  have answered : reply = _ := (execute_of_run (ofLine?_questionLine quotableName quotable) ran).1
  have value_eq : ((Formula.atom word).evaluate object).value = (object.stated? word).getD false :=
    congrArg Verdict.value (Evaluation.ofFact_verdict object word)
  rw [answered, ← value_eq]
  exact ⟨fun _ => Report.resultLine_mem_query,
    Report.tag_mem_query.trans Report.closedWorld_mem_ofFact⟩

end Session

end Connexive
