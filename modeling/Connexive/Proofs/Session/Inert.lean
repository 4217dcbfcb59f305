import Connexive.Proofs.Session.Run

namespace Connexive

/-! What can be left out of a run. A line that fails, or does not begin with the verb of a writing
command, leaves the session as it was, and the run goes on without it as before.
-/

variable {session : Session} {line : String} {lines : List String}

/-- Entries of a record that can be left out: failed lines, and lines of other verbs. -/
def Inert (entry : String × Step) : Prop :=
  entry.2.reply.ok = false ∨
    Verb.ofLine? entry.1 ≠ some .domain ∧ Verb.ofLine? entry.1 ≠ some .fact

/-- What is left of a record when any of its inert entries are taken out. -/
inductive Thinned : List (String × Step) → List (String × Step) → Prop
  | done : Thinned [] []
  | keep {entry : String × Step} {kept record : List (String × Step)}
      (rest : Thinned kept record) : Thinned (entry :: kept) (entry :: record)
  | drop {entry : String × Step} {kept record : List (String × Step)} (inert : Inert entry)
      (rest : Thinned kept record) : Thinned kept (entry :: record)

namespace Session

theorem Effect.writes {step : Step} (effect : Effect session line step)
    (changed : step.session ≠ session) :
    step.reply.ok = true ∧
      ∃ command, Command.ofLine? line = some command ∧ command.writes = true := by
  cases effect with
  | added given ok => exact ⟨ok, _, given, rfl⟩
  | stated given ok => exact ⟨ok, _, given, rfl⟩
  | read _ _ after => exact absurd after changed
  | refused _ after => exact absurd after changed

theorem not_inert {step : Step} {command : Command} (given : Command.ofLine? line = some command)
    (writes : command.writes = true) (ok : step.reply.ok = true) : ¬ Inert (line, step) := by
  rintro (failed | ⟨notDomain, notFact⟩)
  · rw [ok] at failed
    contradiction
  · rcases Command.verb_of_writes given writes with domain | fact
    · exact notDomain domain
    · exact notFact fact

theorem execute_of_inert (inert : Inert (line, session.execute line)) :
    (session.execute line).session = session := by
  cases session.execute_effect line with
  | added given ok => exact absurd inert (not_inert given rfl ok)
  | stated given ok => exact absurd inert (not_inert given rfl ok)
  | read _ _ after => exact after
  | refused _ after => exact after

theorem record_of_thinned {kept : List (String × Step)}
    (thinned : Thinned kept (session.record lines)) :
    session.record (kept.map Prod.fst) = kept ∧
      session.after (kept.map Prod.fst) = session.after lines := by
  induction lines generalizing session kept with
  | nil =>
      cases thinned
      exact ⟨rfl, rfl⟩
  | cons line rest restIH =>
      rw [record_cons] at thinned
      cases thinned with
      | keep thinned =>
          obtain ⟨sameRecord, sameEnd⟩ := restIH thinned
          simp only [List.map_cons, record_cons, after, sameRecord, sameEnd, and_self]
      | drop inert thinned =>
          -- The rest of the run starts from the same session without the line.
          have unchanged := execute_of_inert inert
          rw [unchanged] at thinned
          obtain ⟨sameRecord, sameEnd⟩ := restIH thinned
          exact ⟨sameRecord, by rw [after, unchanged, sameEnd]⟩

/-- Whichever inert lines are left out of a run, the others end in the same steps, replies and
sessions alike, and so does the whole run. Only a command that writes changes the session, and only
where it succeeds. -/
theorem executeAll_without_inert (session : Session) (lines : List String) :
    (∀ kept, Thinned kept (session.record lines) →
      session.executeAll (kept.map Prod.fst) = kept.map Prod.snd ∧
        session.after (kept.map Prod.fst) = session.after lines) ∧
    ∀ line, (session.execute line).session ≠ session →
      (session.execute line).reply.ok = true ∧
        ∃ command, Command.ofLine? line = some command ∧ command.writes = true := by
  refine ⟨fun kept thinned => ?_, fun line changed => (session.execute_effect line).writes changed⟩
  obtain ⟨sameRecord, sameEnd⟩ := record_of_thinned thinned
  refine ⟨?_, sameEnd⟩
  rw [← record_steps, sameRecord]

/-- A failed line and a question are left out between two writing lines. -/
theorem executeAll_without_failure_and_query :
    let record := start.record ["domain add x", "fact y a", "Fact X a", "query x b", "query x a"]
    let kept := (record.eraseIdx 3).eraseIdx 1
    Thinned kept record ∧
      start.executeAll ["domain add x", "Fact X a", "query x a"] = kept.map Prod.snd ∧
      (start.execute "domain add x").session ≠ start ∧
      (start.execute "domain add x").reply.ok = true := by
  intro record kept
  have thinned : Thinned kept record :=
    .keep (.drop (.inl (by decide))
      (.keep (.drop (.inr (by decide +kernel)) (.keep .done))))
  have changed : (start.execute "domain add x").session ≠ start := fun same =>
    absurd (congrArg (fun session => session.domain.objects.length) same) (by decide)
  have sameSteps := (executeAll_without_inert start _).1 kept thinned
  have wrote := (executeAll_without_inert start []).2 "domain add x" changed
  exact ⟨thinned, sameSteps.1, changed, wrote.1⟩

end Session

end Connexive
