import Connexive.Proofs.Session.Effect

namespace Connexive.Session

/-! Runs of a session over several lines, and the sessions that a run from the start can reach. -/

/-- The session after several lines in a row. -/
def after (session : Session) : List String → Session
  | [] => session
  | line :: rest => (session.execute line).session.after rest

def Reachable (session : Session) : Prop :=
  ∃ lines, start.after lines = session

/-- What holds at the start and is kept by every line holds of every session that can be reached. -/
theorem Reachable.induction {motive : Session → Prop} (initial : motive start)
    (step : ∀ session line, motive session → motive (session.execute line).session)
    {session : Session} (reachable : session.Reachable) : motive session := by
  have kept (lines : List String) (session : Session) (holds : motive session) :
      motive (session.after lines) := by
    induction lines generalizing session with
    | nil => exact holds
    | cons line rest restIH => exact restIH _ (step session line holds)
  obtain ⟨lines, rfl⟩ := reachable
  exact kept lines start initial

/-- The lines of a run, each with its step. -/
def record (session : Session) (lines : List String) : List (String × Step) :=
  lines.zip (session.executeAll lines)

@[simp] theorem record_nil (session : Session) : session.record [] = [] := rfl

@[simp] theorem record_cons (session : Session) (line : String) (rest : List String) :
    session.record (line :: rest) =
      (line, session.execute line) :: (session.execute line).session.record rest := rfl

theorem record_steps (session : Session) (lines : List String) :
    (session.record lines).map Prod.snd = session.executeAll lines := by
  induction lines generalizing session with
  | nil => rfl
  | cons line rest restIH =>
      rw [record_cons, List.map_cons, restIH]
      rfl

end Connexive.Session
