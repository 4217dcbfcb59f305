import Connexive.Proofs.Command.Seam
import Connexive.Proofs.Session.Expression

namespace Connexive

/-! The question mark that may close a question. It joins the last word of the line or becomes a
word of its own, and either way the expression is what it was without the mark.
-/

variable {session : Session} {command : Command} {line other name text last mark : String}
  {before words : List String}

theorem dropQuestionMark_concat (before : List String) (last : String) :
    dropQuestionMark (before ++ [last]) = before ++ dropQuestionMark [last] := by
  induction before with
  | nil => rfl
  | cons word before beforeIH =>
      have step : dropQuestionMark (word :: (before ++ [last])) =
          word :: dropQuestionMark (before ++ [last]) := by
        cases before <;> rfl
      rw [List.cons_append, step, beforeIH, List.cons_append]

theorem dropQuestionMark_unmarked (unmarked : last.toList.getLast? ≠ some '?') :
    dropQuestionMark (before ++ [last]) = before ++ [last] := by
  rw [dropQuestionMark_concat, dropQuestionMark, if_neg unmarked]

theorem dropQuestionMark_joined (nonempty : last.toList ≠ []) :
    dropQuestionMark (before ++ [last ++ "?"]) = before ++ [last] := by
  have marked : (last ++ "?").toList = last.toList ++ ['?'] := by
    rw [String.toList_append]
    rfl
  have remains : last.toList.isEmpty = false := by
    simpa using nonempty
  rw [dropQuestionMark_concat, dropQuestionMark, marked, List.getLast?_concat, if_pos rfl,
    List.dropLast_concat]
  dsimp only
  rw [remains, String.ofList_toList]
  rfl

theorem dropQuestionMark_alone (words : List String) :
    dropQuestionMark (words ++ ["?"]) = words := by
  have nothing : dropQuestionMark ["?"] = [] := by decide
  rw [dropQuestionMark_concat, nothing, List.append_nil]

theorem Quotable.nonempty (quotable : Quotable text) : text.toList ≠ [] := by
  intro nothing
  have notBlank := quotable.notBlank
  rw [Text.allBlank, nothing] at notBlank
  contradiction

/-- Whether the mark is there or not, and with a space before it or not, the words are the same once
it is dropped. -/
theorem tokenize_closed (closing : mark ∈ ["", "?", " ?"]) (cut : tokenize text = .ok words)
    (ends : words.getLast? = some last) (unmarked : last.toList.getLast? ≠ some '?') :
    ∃ marked, tokenize (text ++ mark) = .ok marked ∧ marked ≠ [] ∧
      dropQuestionMark marked = words := by
  have bare : ∀ c ∈ "?".toList, Lexeme.IsBare c := Lexeme.isBare_of_all (by decide)
  simp only [List.mem_cons, List.not_mem_nil, or_false] at closing
  rcases closing with rfl | rfl | rfl
  · obtain ⟨before, rfl⟩ := List.getLast?_eq_some_iff.mp ends
    rw [String.append_empty]
    exact ⟨_, cut, by simp, dropQuestionMark_unmarked unmarked⟩
  · rcases tokenize_append_bare cut (by decide) bare with alone | ⟨before, word, rfl, joined⟩
    · exact ⟨_, alone, by simp, dropQuestionMark_alone words⟩
    · have quotable := quotable_of_tokenize cut word (by simp)
      exact ⟨_, joined, by simp, dropQuestionMark_joined quotable.nonempty⟩
  · have parts : text ++ " ?" = text ++ " " ++ "?" := by
      rw [String.append_assoc]
      rfl
    have markAlone : tokenize "?" = .ok ["?"] := rfl
    have apart : tokenize (text ++ " " ++ "?") = _ :=
      tokenize_between_blanks (even_of_tokenize cut) (by decide) (by decide) (by decide)
    rw [← parts, cut, markAlone] at apart
    exact ⟨_, apart, by simp, dropQuestionMark_alone words⟩

theorem ofLine?_closed (quotable : Quotable name) (closing : mark ∈ ["", "?", " ?"])
    (cut : tokenize text = .ok words) (ends : words.getLast? = some last)
    (unmarked : last.toList.getLast? ≠ some '?') :
    Command.ofLine? (queryLine name text ++ mark) = some (.query name words) ∧
      Command.ofLine? (checkLine text ++ mark) = some (.checkForAll words) := by
  obtain ⟨marked, markedCut, nonempty, dropped⟩ := tokenize_closed closing cut ends unmarked
  obtain ⟨word, rest, rfl⟩ := List.exists_cons_of_ne_nil nonempty
  have asked : queryLine name text ++ mark = queryLine name (text ++ mark) := String.append_assoc ..
  have checked : checkLine text ++ mark = checkLine (text ++ mark) := String.append_assoc ..
  rw [asked, checked, ofLine?_queryLine quotable markedCut, ofLine?_checkLine markedCut, dropped]
  exact ⟨rfl, rfl⟩

namespace Session

theorem execute_of_same_command (given : Command.ofLine? line = some command)
    (otherGiven : Command.ofLine? other = some command) :
    (session.execute line).reply = (session.execute other).reply ∧
      (session.execute line).session = (session.execute other).session := by
  obtain ⟨answered, after⟩ := execute_of_command session given
  obtain ⟨otherAnswered, otherAfter⟩ := execute_of_command session otherGiven
  exact ⟨answered.trans otherAnswered.symm, after.trans otherAfter.symm⟩

/-- A question mark that closes a line makes no difference to its answer or to the session, whether
the expression can be read or not. -/
theorem closing_mark_optional (session : Session) (quotable : Quotable name)
    (cut : tokenize text = .ok words) (ends : words.getLast? = some last)
    (unmarked : last.toList.getLast? ≠ some '?') :
    ∀ line ∈ [queryLine name text, checkLine text], ∀ mark ∈ ["?", " ?"],
      (session.execute (line ++ mark)).reply = (session.execute line).reply ∧
        (session.execute (line ++ mark)).session = (session.execute line).session := by
  intro line asks mark closing
  obtain ⟨query, check⟩ := ofLine?_closed quotable List.mem_cons_self cut ends unmarked
  obtain ⟨markedQuery, markedCheck⟩ :=
    ofLine?_closed quotable (List.mem_cons_of_mem "" closing) cut ends unmarked
  rw [String.append_empty] at query check
  simp only [List.mem_cons, List.not_mem_nil, or_false] at asks
  rcases asks with rfl | rfl
  · exact execute_of_same_command markedQuery query
  · exact execute_of_same_command markedCheck check

/-- The mark joins a bare word, stands apart behind quotes, and follows what cannot be read. -/
theorem closing_mark_optional_of_unreadable :
    let session := start.after ["domain add \"a b\"", "fact \"a b\" p"]
    let reply (line : String) := (session.execute line).reply
    Quotable "A B" ∧ reply "query \"A B\" NOT p?" = reply "query \"A B\" NOT p" ∧
      reply "check forall \"p\" ?" = reply "check forall \"p\"" ∧
      reply "check forall (p?" = reply "check forall (p" ∧
      (reply "check forall (p").ok = false := by
  intro session reply
  have quotable : Quotable "A B" := ⟨by decide, by decide⟩
  have word : tokenize "NOT p" = .ok ["NOT", "p"] := rfl
  have quoted : tokenize "\"p\"" = .ok ["p"] := rfl
  have unreadable : tokenize "(p" = .ok ["(", "p"] := rfl
  refine ⟨quotable, ?_, ?_, ?_, by decide⟩
  · exact (closing_mark_optional session quotable word rfl (by decide)
      (queryLine "A B" "NOT p") (by simp) "?" (by simp)).1
  · exact (closing_mark_optional session quotable quoted rfl (by decide)
      (checkLine "\"p\"") (by simp) " ?" (by simp)).1
  · exact (closing_mark_optional session quotable unreadable rfl (by decide)
      (checkLine "(p") (by simp) "?" (by simp)).1

end Session

end Connexive
