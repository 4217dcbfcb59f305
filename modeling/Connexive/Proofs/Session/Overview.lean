import Connexive.Proofs.Command.Pieces
import Connexive.Proofs.Session.Run
import Connexive.Proofs.Text.Breaks

namespace Connexive

/-! The overview of a domain. It is written as one text with an entry for each object and then cut
into lines, and names may hold any character that ends a line. So an object takes one line exactly
if it is written without such a character, and in a session whose lines hold none every object is.
-/

open Text (NoBreak EndsOpen)

variable {session : Session} {object : Object} {line : String} {lines : List String} {step : Step}

namespace Object

/-- What the overview shows of an object. -/
def entry (object : Object) : String :=
  "  - " ++ object.render

/-- Neither the name of an object nor a predicate that is stated about it holds a line break. -/
structure Unbroken (object : Object) : Prop where
  name : NoBreak object.name.toList
  facts : ∀ predicate ∈ object.facts.map Prod.fst, NoBreak predicate.toList

theorem noBreak_renderFacts_iff (facts : List (String × Bool)) :
    NoBreak (renderFacts facts).toList ↔
      ∀ predicate ∈ facts.map Prod.fst, NoBreak predicate.toList := by
  have fact (shown : String × Bool) :
      NoBreak (renderFact shown).toList ↔ NoBreak shown.1.toList := by
    have value : NoBreak ("=" ++ Text.truthWord shown.2).toList := by
      cases shown.2 <;> decide
    rw [renderFact, String.append_assoc, String.toList_append, Text.noBreak_append_iff]
    exact and_iff_left value
  rw [renderFacts]
  cases facts with
  | nil => simp; decide
  | cons first rest =>
      have between : NoBreak ", ".toList := by decide
      rw [List.isEmpty_cons, if_neg Bool.false_ne_true, Text.noBreak_intercalate_iff between,
        List.forall_mem_map, List.forall_mem_map]
      simp only [fact]

theorem noBreak_entry_iff : NoBreak object.entry.toList ↔ object.Unbroken := by
  have dash : NoBreak "  - ".toList := by decide
  have opening : NoBreak "DomainObject\x7bname='".toList := by decide
  have middle : NoBreak "', states=\x7b".toList := by decide
  have closing : NoBreak "\x7d\x7d".toList := by decide
  unfold entry render
  simp only [String.toList_append, Text.noBreak_append_iff, noBreak_renderFacts_iff]
  constructor
  · rintro ⟨_, ⟨⟨⟨_, name⟩, _⟩, facts⟩, _⟩
    exact ⟨name, facts⟩
  · rintro ⟨name, facts⟩
    exact ⟨dash, ⟨⟨⟨opening, name⟩, middle⟩, facts⟩, closing⟩

theorem endsOpen_entry (object : Object) : EndsOpen object.entry.toList := by
  have closing : EndsOpen "\x7d\x7d".toList := ⟨'\x7d', rfl, rfl⟩
  unfold entry render
  rw [String.toList_append, String.toList_append]
  exact (closing.append _).append _

theorem Unbroken.state {predicate : String} (unbroken : object.Unbroken)
    (noBreak : NoBreak predicate.toList) (value : Bool) :
    (object.state predicate value).Unbroken := by
  refine ⟨unbroken.name, fun stored member => ?_⟩
  rw [Object.state, Assoc.keys_put] at member
  split at member
  · exact unbroken.facts stored member
  · rcases List.mem_append.mp member with before | added
    · exact unbroken.facts stored before
    · rw [List.mem_singleton.mp added]
      exact Text.noBreak_lower noBreak

end Object

def overviewHeader : String := "Domain State:"

theorem Domain.lines_render (domain : Domain) (inhabited : domain.objects ≠ []) :
    Text.lines domain.render =
      overviewHeader :: (domain.objects.map Object.entry).flatMap Text.lines := by
  have entries : domain.render =
      "\n".intercalate (overviewHeader :: domain.objects.map Object.entry) := by
    rw [Domain.render, if_neg (by simpa using inhabited)]
    rfl
  have header : EndsOpen overviewHeader.toList := ⟨':', rfl, rfl⟩
  have openEnds : ∀ text ∈ overviewHeader :: domain.objects.map Object.entry,
      EndsOpen text.toList := by
    rw [List.forall_mem_cons, List.forall_mem_map]
    exact ⟨header, fun object _ => object.endsOpen_entry⟩
  rw [entries, Text.lines_intercalate openEnds]
  rfl

/-- The objects of a domain are all written without a line break. -/
def Domain.Unbroken (domain : Domain) : Prop :=
  ∀ object ∈ domain.objects, object.Unbroken

theorem Command.noBreak_texts {command : Command} (given : ofLine? line = some command)
    (noBreak : NoBreak line.toList) : ∀ text ∈ command.texts, NoBreak text.toList := by
  obtain ⟨first, arguments, verb, cut, word, written⟩ := ofLine?_eq_some_iff.mp given
  intro text member
  have inLine := List.mem_cons_of_mem first (Verb.mem_of_texts written text member)
  rw [Text.noBreak_iff] at noBreak ⊢
  exact fun c inText => noBreak c (mem_of_mem_word cut inLine inText)

namespace Session

theorem Effect.unbroken (effect : Effect session line step) (noBreak : NoBreak line.toList)
    (unbroken : session.domain.Unbroken) : step.session.domain.Unbroken := by
  cases effect with
  | @added name _ given ok joined after =>
      obtain ⟨_, rfl⟩ := Domain.add?_eq_some_iff.mp joined
      have nameUnbroken := Command.noBreak_texts given noBreak name (List.mem_singleton_self name)
      rw [after]
      exact List.forall_mem_append.mpr
        ⟨unbroken, List.forall_mem_singleton.mpr ⟨nameUnbroken, nofun⟩⟩
  | @stated name predicate value _ given ok found after =>
      have predicateUnbroken : NoBreak predicate.toList :=
        Command.noBreak_texts given noBreak predicate (by simp [Command.texts])
      rw [after]
      refine List.forall_mem_map.mpr fun object member => ?_
      split
      · exact (unbroken object member).state predicateUnbroken value
      · exact unbroken object member
  | read _ _ after | refused _ after =>
      rw [after]
      exact unbroken

theorem unbroken_after (unbroken : session.domain.Unbroken)
    (noBreaks : ∀ line ∈ lines, NoBreak line.toList) :
    (session.after lines).domain.Unbroken := by
  induction lines generalizing session with
  | nil => exact unbroken
  | cons line rest restIH =>
      obtain ⟨noBreak, noBreakRest⟩ := List.forall_mem_cons.mp noBreaks
      exact restIH ((session.execute_effect line).unbroken noBreak unbroken) noBreakRest

theorem execute_state (session : Session) (asks : Verb.ofLine? line = some .state) :
    (session.execute line).reply = .ofLines (Text.lines session.domain.render) ∧
      (session.execute line).session = session := by
  unfold Verb.ofLine? at asks
  split at asks
  · next first arguments cut =>
      have given : Command.ofLine? line = some .showState :=
        Command.ofLine?_eq_some_iff.mpr ⟨first, arguments, .state, cut, asks, rfl⟩
      exact execute_of_run given rfl
  · contradiction

/-- The overview of a domain with objects is a header and then the lines that each object takes, in
order. It has one line for each object, the entry of that object, if and only if no name and no
stated predicate holds a line break; in a session whose lines hold none, none does. -/
theorem overview_of_one_line_each_iff (asks : Verb.ofLine? line = some .state)
    (inhabited : session.domain.objects ≠ []) :
    let shown := session.execute line
    let entries := session.domain.objects.map Object.entry
    (shown.reply.ok = true ∧ shown.session = session) ∧
      shown.reply.lines = overviewHeader :: entries.flatMap Text.lines ∧
      (shown.reply.lines = overviewHeader :: entries ↔ session.domain.Unbroken) ∧
      (shown.reply.lines.length = session.domain.objects.length + 1 ↔
        session.domain.Unbroken) ∧
      ∀ lines, start.after lines = session → (∀ line ∈ lines, NoBreak line.toList) →
        session.domain.Unbroken := by
  intro shown entries
  obtain ⟨answered, after⟩ := session.execute_state asks
  have openEnds : ∀ text ∈ entries, EndsOpen text.toList :=
    List.forall_mem_map.mpr fun object _ => object.endsOpen_entry
  have noBreaks : (∀ text ∈ entries, NoBreak text.toList) ↔ session.domain.Unbroken := by
    rw [List.forall_mem_map]
    exact forall₂_congr fun object _ => Object.noBreak_entry_iff
  have linesShown : shown.reply.lines = overviewHeader :: entries.flatMap Text.lines := by
    rw [answered]
    exact session.domain.lines_render inhabited
  refine ⟨⟨answered ▸ rfl, after⟩, linesShown, ?_, ?_, ?_⟩
  · rw [linesShown, List.cons_inj_right, Text.flatMap_lines_eq_iff openEnds, noBreaks]
  · rw [linesShown, List.length_cons, Nat.succ_inj, ← List.length_map Object.entry,
      (Text.length_lines_iff openEnds).2, noBreaks]
  · rintro lines rfl noBreakLines
    exact unbroken_after nofun noBreakLines

/-- Blanks and capitals in names end no line. -/
theorem overview_of_two_objects :
    let lines := ["domain add \"A b\"", "domain add y", "fact \"a B\" \"is P\" false"]
    let session := start.after lines
    let shown := session.execute "State now"
    let entries := session.domain.objects.map Object.entry
    Verb.ofLine? "State now" = some .state ∧ session.domain.objects ≠ [] ∧
      (∀ line ∈ lines, NoBreak line.toList) ∧ shown.reply.ok = true ∧
      shown.reply.lines = overviewHeader :: entries ∧ shown.reply.lines.length = 3 := by
  intro lines session shown entries
  have asks : Verb.ofLine? "State now" = some .state := by decide
  have inhabited : session.domain.objects ≠ [] := by decide
  have noBreaks : ∀ line ∈ lines, NoBreak line.toList := by decide
  obtain ⟨⟨ok, _⟩, _, whole, counted, kept⟩ := overview_of_one_line_each_iff asks inhabited
  have unbroken := kept lines rfl noBreaks
  exact ⟨asks, inhabited, noBreaks, ok, whole.mpr unbroken, counted.mpr unbroken⟩

/-- A name may hold a character that ends a line, and its object then takes two. -/
theorem overview_splits_broken_name :
    let session := start.after ["domain add \"a\x0Bb\""]
    let shown := (session.execute "state").reply
    session.Reachable ∧ session.domain.objects = [.named "a\x0Bb"] ∧ shown.ok = true ∧
      shown.lines = ["Domain State:", "  - DomainObject\x7bname='a",
        "b', states=\x7bEMPTY\x7d\x7d"] ∧
      shown.lines.length ≠ session.domain.objects.length + 1 := by
  intro session shown
  exact ⟨⟨_, rfl⟩, rfl, by decide, by decide, by decide⟩

end Session

end Connexive
