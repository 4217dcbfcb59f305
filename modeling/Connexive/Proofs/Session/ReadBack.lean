import Connexive.Proofs.Session.History
import Connexive.Proofs.Text.Case

namespace Connexive

/-! Which facts can be read back once they are stated. Any quoted phrase can be stated, but a
question drops a mark at the end of the phrase and takes a keyword or a parenthesis for what it is
outside quotes. What remains are the phrases that can be asked for.
-/

variable {session : Session} {object : Object} {line name predicate word : String} {step : Step}
  {value : Bool}

namespace Session

theorem quotable_of_addObject (given : Command.ofLine? line = some (.addObject name)) :
    Quotable name := by
  obtain ⟨first, arguments, verb, cut, word, written⟩ := Command.ofLine?_eq_some_iff.mp given
  have member := Verb.mem_of_texts written name (List.mem_singleton_self name)
  exact quotable_of_tokenize cut name (List.mem_cons_of_mem first member)

theorem Effect.names_quotable (effect : Effect session line step)
    (quotable : ∀ name ∈ session.domain.names, Quotable name) :
    ∀ name ∈ step.session.domain.names, Quotable name := by
  cases effect with
  | added given ok joined after =>
      rw [after, Domain.names_add? joined]
      refine List.forall_mem_append.mpr ⟨quotable, fun other member => ?_⟩
      cases List.mem_singleton.mp member
      exact quotable_of_addObject given
  | stated given ok found after =>
      rw [after, Domain.names_state]
      exact quotable
  | read _ _ after | refused _ after =>
      rw [after]
      exact quotable

theorem Reachable.names_quotable (reachable : session.Reachable) :
    ∀ name ∈ session.domain.names, Quotable name := by
  apply reachable.induction
  · nofun
  · intro session line quotable
    exact (session.execute_effect line).names_quotable quotable

theorem execute_statementLine (quotableName : Quotable name) (quotable : Quotable predicate)
    (known : session.domain.contains name = true) (value : Bool) :
    (session.execute (statementLine name predicate value)).reply.ok = true ∧
      (session.execute (statementLine name predicate value)).session =
        ⟨session.domain.state name predicate value⟩ := by
  obtain ⟨object, found⟩ := Domain.contains_iff.mp known
  have ran : ∃ reply, reply.ok = true ∧ session.run (.stateFact name predicate value) =
      .ok (reply, ⟨session.domain.state name predicate value⟩) := by
    rw [run, find_eq_ok_iff.mpr found]
    exact ⟨_, rfl, rfl⟩
  obtain ⟨reply, ok, ran⟩ := ran
  obtain ⟨answered, after⟩ := execute_of_run (ofLine?_statementLine quotableName quotable) ran
  exact ⟨answered ▸ ok, after⟩

/-- What is stated about the predicate of any object of any session can be asked for next. -/
def ReadBack (predicate : String) : Prop :=
  ∀ session : Session, session.Reachable → ∀ name ∈ session.domain.names, ∀ value,
    let stated := session.execute (statementLine name predicate value)
    let asked := stated.session.execute (questionLine name predicate)
    stated.reply.ok = true →
      asked.reply.ok = true ∧ (∀ shown, asked.reply.Reports shown ↔ shown = value) ∧
        ¬ asked.reply.ShowsClosedWorld

theorem readBack_of_askable (quotable : Quotable predicate) (askable : Askable predicate) :
    ReadBack predicate := by
  intro session reachable name member value stated asked _
  have quotableName := reachable.names_quotable name member
  have known := Domain.contains_of_mem_names member
  obtain ⟨object, found⟩ := Domain.contains_iff.mp known
  have after : stated.session = ⟨session.domain.state name predicate value⟩ :=
    (execute_statementLine quotableName quotable known value).2
  have foundAfter : stated.session.domain.find? name = some (object.state predicate value) := by
    rw [after, Domain.find?_state, found]
    simp
  have nowStated : (object.state predicate value).stated? predicate = some value := by
    simp [Object.stated?_state]
  have ok : asked.reply.ok = true :=
    (execute_questionLine_ok_iff quotableName quotable).mpr ⟨_, _, foundAfter, askable.read_eq⟩
  obtain ⟨reports, tagged⟩ := answer_of_word quotableName quotable foundAfter askable.read_eq
  rw [nowStated] at reports tagged
  exact ⟨ok, fun shown => (reports shown).trans eq_comm, fun shown => nomatch tagged.mp shown⟩

/-- A phrase that cannot be asked for is cut short, or is no word of a formula. -/
theorem questionMark_of_not_askable {formula : Formula} (notAskable : ¬ Askable predicate)
    (read : Formula.read (dropQuestionMark [predicate]) = .ok formula) :
    ∃ word, predicate = word ++ "?" ∧ formula = .atom word := by
  unfold dropQuestionMark at read
  split at read
  · next marked =>
      obtain ⟨chars, ended⟩ := List.getLast?_eq_some_iff.mp marked
      dsimp only at read
      rw [ended, List.dropLast_concat] at read
      have whole : predicate = String.ofList chars ++ "?" := by
        rw [← String.toList_inj]
        simp [ended]
      split at read
      · contradiction
      · obtain ⟨_, rfl⟩ := Formula.read_word_iff.mp read
        exact ⟨_, whole, rfl⟩
  · next unmarked =>
      obtain ⟨isOperand, _⟩ := Formula.read_word_iff.mp read
      exact absurd ⟨isOperand, unmarked⟩ notAskable

theorem askable_of_readBack (quotable : Quotable predicate) (readBack : ReadBack predicate) :
    Askable predicate := by
  have start_after : start.after ["domain add x"] = ⟨⟨[.named "x"]⟩⟩ := rfl
  have reachable : Session.Reachable ⟨⟨[.named "x"]⟩⟩ := ⟨_, start_after⟩
  have member : "x" ∈ Domain.names ⟨[.named "x"]⟩ := List.mem_singleton.mpr rfl
  have quotableName := reachable.names_quotable "x" member
  have known := Domain.contains_of_mem_names member
  obtain ⟨ok, after⟩ := execute_statementLine quotableName quotable known true
  obtain ⟨answered, _, untagged⟩ := readBack _ reachable "x" member true ok
  rw [after] at answered untagged
  obtain ⟨object, formula, found, read⟩ :=
    (execute_questionLine_ok_iff quotableName quotable).mp answered
  cases Decidable.em (Askable predicate) with
  | inl askable => exact askable
  | inr notAskable =>
      obtain ⟨word, rfl, rfl⟩ := questionMark_of_not_askable notAskable read
      -- What was stated about the whole phrase is not found under the shorter one.
      have tagged := (answer_of_word quotableName quotable found read).2
      have shorter : Text.lower word ≠ Text.lower (word ++ "?") := by
        intro same
        have length := Text.length_lower_append word "?"
        have mark : (Text.lower "?").length = 1 := by decide
        rw [← same, mark] at length
        omega
      have unstated : object.stated? word = none := by
        have foundNamed : Domain.find? ⟨[.named "x"]⟩ "x" = some (.named "x") := rfl
        rw [Domain.find?_state, foundNamed, Option.map_some, if_pos rfl] at found
        cases found
        rw [Object.stated?_state, if_neg shorter, Object.stated?_named]
      exact absurd (tagged.mpr unstated) untagged

/-- Every quoted phrase can be stated of every object of a session. Exactly the phrases that can be
asked for are read back. -/
theorem readBack_iff_askable (quotable : Quotable predicate) :
    (∀ session : Session, session.Reachable → ∀ name ∈ session.domain.names, ∀ value,
      (session.execute (statementLine name predicate value)).reply.ok = true) ∧
    (ReadBack predicate ↔ Askable predicate) := by
  refine ⟨fun session reachable name member value => ?_,
    askable_of_readBack quotable, readBack_of_askable quotable⟩
  have quotableName := reachable.names_quotable name member
  have known := Domain.contains_of_mem_names member
  exact (execute_statementLine quotableName quotable known value).1

/-- A keyword inside a phrase and a mark before its end do no harm. -/
theorem readBack_spaced_phrase :
    Quotable "who? (and why)" ∧ ReadBack "who? (and why)" := by
  have quotable : Quotable "who? (and why)" := ⟨by decide, by decide⟩
  exact ⟨quotable, (readBack_iff_askable quotable).2.mpr (by decide +kernel)⟩

/-- A phrase that ends in a question mark is stated to be true and then reported false, as if it had
never been stated. -/
theorem not_readBack_question_mark :
    let stated := (start.after ["domain add x"]).execute (statementLine "x" "is it?" true)
    let asked := stated.session.execute (questionLine "x" "is it?")
    Quotable "is it?" ∧ stated.reply.ok = true ∧ asked.reply.Reports false ∧
      asked.reply.ShowsClosedWorld ∧ ¬ ReadBack "is it?" := by
  intro stated asked
  have ok : stated.reply.ok = true := by decide
  have shown : asked.reply.ShowsClosedWorld := by decide
  refine ⟨⟨by decide, by decide⟩, ok, by decide, shown, fun readBack => ?_⟩
  have answered := readBack _ ⟨["domain add x"], rfl⟩ "x" (List.mem_singleton.mpr rfl) true ok
  exact answered.2.2 shown

end Session

end Connexive
