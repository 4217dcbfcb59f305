import Connexive.Proofs.Domain.Distinct
import Connexive.Proofs.Report.Universal
import Connexive.Proofs.Session.Expression
import Connexive.Proofs.Session.ReadBack

namespace Connexive

/-! A universal check against the queries about each object. Both give the expression the same
reading, and what the check reports of the domain is what the queries report of its objects.
-/

/-- The reply shows this value as its result for the whole domain. -/
def Reply.ReportsForAll (reply : Reply) (value : Bool) : Prop :=
  Report.universalLine value ∈ reply.lines

instance (reply : Reply) (value : Bool) : Decidable (reply.ReportsForAll value) :=
  inferInstanceAs (Decidable (Report.universalLine value ∈ reply.lines))

variable {session : Session} {object : Object} {formula : Formula} {line text : String}
  {step : Step} {value : Bool}

namespace Session

theorem Effect.reachable_domain (effect : Effect session line step)
    (reachable : session.domain.Reachable) : step.session.domain.Reachable := by
  cases effect with
  | added _ _ joined after =>
      rw [after]
      exact .add reachable joined
  | stated _ _ _ after =>
      rw [after]
      exact .state reachable _ _ _
  | read _ _ after | refused _ after =>
      rw [after]
      exact reachable

theorem Reachable.domain (reachable : session.Reachable) : session.domain.Reachable := by
  apply reachable.induction
  · exact .empty
  · intro session line reachable
    exact (session.execute_effect line).reachable_domain reachable

theorem Reachable.distinct (reachable : session.Reachable) : session.domain.Distinct :=
  reachable.domain.distinct

/-- Under its own name, each object of a session can be asked. -/
theorem Reachable.reply_queryLine (reachable : session.Reachable)
    (member : object ∈ session.domain.objects) (spoken : tokenize text ≠ .ok []) :
    (session.execute (queryLine object.name text)).reply =
      match Formula.ofText text with
      | .error message => .failure ("Error: " ++ message)
      | .ok formula =>
        .ofLines (Report.query formula.render object.name (formula.evaluate object)) := by
  have quotable := reachable.names_quotable object.name (List.mem_map_of_mem member)
  have found := reachable.distinct.find?_eq_some_iff.mpr ⟨member, rfl⟩
  exact Session.reply_queryLine quotable found spoken

theorem Reachable.reports_queryLine_iff (reachable : session.Reachable)
    (member : object ∈ session.domain.objects) (spoken : tokenize text ≠ .ok [])
    (given : Formula.ofText text = .ok formula) :
    (session.execute (queryLine object.name text)).reply.Reports value ↔
      formula.truth object = value := by
  rw [reachable.reply_queryLine member spoken, given, ← Formula.evaluate_value]
  exact Report.resultLine_mem_query

/-- The names of the objects of which a query reports that it is false, in order. -/
def failingNames (session : Session) (text : String) : List String :=
  session.domain.names.filter fun name =>
    (session.execute (queryLine name text)).reply.Reports false

theorem Reachable.failingNames_eq (reachable : session.Reachable) (spoken : tokenize text ≠ .ok [])
    (given : Formula.ofText text = .ok formula) :
    session.failingNames text = (session.domain.forAll formula).failing := by
  rw [Domain.failing_forAll, failingNames, Domain.names, List.filter_map]
  apply congrArg (List.map Object.name)
  apply List.filter_congr
  intro object member
  rw [Function.comp_apply, Bool.eq_iff_iff, decide_eq_true_iff, Bool.not_eq_true']
  exact reachable.reports_queryLine_iff member spoken given

theorem Reachable.all_report_iff (reachable : session.Reachable) (spoken : tokenize text ≠ .ok [])
    (given : Formula.ofText text = .ok formula) :
    (session.domain.forAll formula).value = true ↔
      session.domain.names ≠ [] ∧ ∀ name ∈ session.domain.names,
        (session.execute (queryLine name text)).reply.Reports true := by
  rw [Domain.forAll_value_iff, Domain.names, ne_eq, ne_eq, List.map_eq_nil_iff,
    List.forall_mem_map]
  apply and_congr_right
  intro nonempty
  constructor
  · intro holds object member
    exact (reachable.reports_queryLine_iff member spoken given).mpr (holds object member)
  · intro reports object member
    exact (reachable.reports_queryLine_iff member spoken given).mp (reports object member)

/-- A universal check is refused exactly as each query is. Otherwise it reports the claim true if
there is an object and each query reports it true, and names those objects of which a query reports
it false. -/
theorem checkLine_agrees_queryLine (reachable : session.Reachable)
    (spoken : tokenize text ≠ .ok []) :
    let checked := (session.execute (checkLine text)).reply
    let asked (name : String) := (session.execute (queryLine name text)).reply
    let names := session.domain.names
    let failing := session.failingNames text
    (∀ name ∈ names, (checked.ok = false ↔ (asked name).ok = false) ∧
      (checked.ok = false → asked name = checked)) ∧
    (checked.ok = true →
      (checked.ReportsForAll true ↔
        names ≠ [] ∧ ∀ name ∈ names, (asked name).Reports true) ∧
      (checked.ReportsForAll false ↔
        ¬ (names ≠ [] ∧ ∀ name ∈ names, (asked name).Reports true)) ∧
      Report.failureLines checked.lines =
        if failing = [] then [] else [Report.failureLine failing]) := by
  intro checked asked names failing
  have checkedReply : checked = _ := reply_checkLine spoken
  have askedReply (object : Object) (member : object ∈ session.domain.objects) :
      asked object.name = _ := reachable.reply_queryLine member spoken
  cases given : Formula.ofText text with
  | error message =>
      simp only [given] at checkedReply askedReply
      constructor
      · intro name member
        obtain ⟨object, inDomain, rfl⟩ := List.mem_map.mp member
        rw [checkedReply, askedReply object inDomain]
        simp
      · intro ok
        rw [checkedReply] at ok
        contradiction
  | ok formula =>
      simp only [given] at checkedReply askedReply
      constructor
      · intro name member
        obtain ⟨object, inDomain, rfl⟩ := List.mem_map.mp member
        rw [checkedReply, askedReply object inDomain]
        simp [Reply.ofLines]
      · intro _
        have shown (value : Bool) : checked.ReportsForAll value ↔
            (session.domain.forAll formula).value = value := by
          rw [checkedReply]
          exact Report.universalLine_mem_forAll
        have all := reachable.all_report_iff spoken given
        refine ⟨(shown true).trans all, ?_, ?_⟩
        · rw [shown, ← Bool.not_eq_true]
          exact not_congr all
        · have named : failing = (session.domain.forAll formula).failing :=
            reachable.failingNames_eq spoken given
          rw [checkedReply, named]
          exact Report.failureLines_forAll _ _ _

/-- One of two objects fails a claim, and a text that ends in a connective is refused of both. -/
theorem checkLine_agrees_two_objects :
    let lines := ["domain add x", "domain add \"y z\"", "fact X a"]
    let session := start.after lines
    let checked := (session.execute (checkLine "\"A\" OR a?")).reply
    let refused := (session.execute (checkLine "a OR")).reply
    session.Reachable ∧ tokenize "\"A\" OR a?" ≠ .ok [] ∧ tokenize "a OR" ≠ .ok [] ∧
      checked.ReportsForAll false ∧
      Report.failureLines checked.lines = [Report.failureLine ["y z"]] ∧
      (session.execute (queryLine "y z" "a OR")).reply = refused := by
  intro lines session checked refused
  have reachable : session.Reachable := ⟨lines, rfl⟩
  have spoken : tokenize "\"A\" OR a?" ≠ .ok [] := by decide
  have spokenRefused : tokenize "a OR" ≠ .ok [] := by decide
  have failing : session.failingNames "\"A\" OR a?" = ["y z"] := by decide +kernel
  obtain ⟨_, answered⟩ := checkLine_agrees_queryLine reachable spoken
  obtain ⟨refusal, _⟩ := checkLine_agrees_queryLine reachable spokenRefused
  obtain ⟨_, reportsFalse, named⟩ := answered (by decide)
  rw [failing] at named
  refine ⟨reachable, spoken, spokenRefused, reportsFalse.mpr ?_, named, ?_⟩
  · rintro ⟨_, reports⟩
    have shown := reports "y z" (by decide +kernel)
    revert shown
    decide +kernel
  · exact (refusal "y z" (by decide +kernel)).2 (by decide +kernel)

end Session

end Connexive
