import Connexive.Proofs.Evaluation.Heuristics
import Connexive.Proofs.Evaluation.Verdict

namespace Connexive

/-! An evaluation that grows. What is added to it, in any order, comes behind what it has: lines as
they are, heuristics without those that were noted before. Its verdict is settled from the start.
-/

/-- What is added to an evaluation after it is made. -/
inductive Addition
  | tagged (heuristic : Heuristic) (rationale : String)
  | heuristics (more : List Heuristic)
  | lines (more : List String)

namespace Addition

def apply : Addition → Evaluation → Evaluation
  | tagged heuristic rationale, evaluation => evaluation.annotate heuristic rationale
  | heuristics more, evaluation => evaluation.merge more
  | lines more, evaluation => evaluation.appendLines more

/-- The heuristics that it names, known ones included. -/
def named : Addition → List Heuristic
  | tagged heuristic _ => [heuristic]
  | heuristics more => more
  | lines _ => []

/-- The lines that it writes. A tag and its rationale are neighbours. -/
def written : Addition → List String
  | tagged heuristic rationale => [heuristic.tag, rationale]
  | heuristics _ => []
  | lines more => more

end Addition

namespace Evaluation

variable {evaluation : Evaluation} {noted more : List Heuristic}

def extend (evaluation : Evaluation) (additions : List Addition) : Evaluation :=
  additions.foldl (fun extended addition => addition.apply extended) evaluation

theorem mergeHeuristics_append (noted first second : List Heuristic) :
    mergeHeuristics noted (first ++ second) =
      mergeHeuristics (mergeHeuristics noted first) second := by
  induction first generalizing noted with
  | nil => rfl
  | cons heuristic rest restIH =>
      rw [List.cons_append, mergeHeuristics, mergeHeuristics, restIH]

theorem prefix_mergeHeuristics (noted more : List Heuristic) :
    noted <+: mergeHeuristics noted more := by
  induction more generalizing noted with
  | nil => exact List.prefix_refl noted
  | cons heuristic rest restIH =>
      rw [mergeHeuristics]
      split
      · exact restIH noted
      · exact (List.prefix_append noted [heuristic]).trans (restIH (noted ++ [heuristic]))

theorem mergeHeuristics_of_known (known : ∀ heuristic ∈ more, heuristic ∈ noted) :
    mergeHeuristics noted more = noted := by
  induction more with
  | nil => rfl
  | cons heuristic rest restIH =>
      have first : noted.contains heuristic = true := by simp [known heuristic (by simp)]
      rw [mergeHeuristics, if_pos first]
      exact restIH fun later member => known later (by simp [member])

theorem mem_mergeHeuristics {heuristic : Heuristic} (member : heuristic ∈ more) :
    heuristic ∈ mergeHeuristics noted more := by
  obtain ⟨before, after, split⟩ := List.append_of_mem member
  -- Right behind it, the heuristic is noted, whatever was noted before; the rest only adds to that.
  have noticed : heuristic ∈ mergeHeuristics (mergeHeuristics noted before) [heuristic] := by
    simp only [mergeHeuristics]
    split
    · next known => simpa using known
    · simp
  rw [split, ← List.singleton_append, mergeHeuristics_append, mergeHeuristics_append]
  exact (prefix_mergeHeuristics _ after).subset noticed

theorem merge_merge (evaluation : Evaluation) (first second : List Heuristic) :
    (evaluation.merge first).merge second = evaluation.merge (first ++ second) := by
  simp only [merge, mergeHeuristics_append]

theorem merge_again (evaluation : Evaluation) (more : List Heuristic) :
    (evaluation.merge more).merge more = evaluation.merge more := by
  simp only [merge, mergeHeuristics_of_known fun _ => mem_mergeHeuristics]

theorem apply_heuristics (addition : Addition) (evaluation : Evaluation) :
    (addition.apply evaluation).heuristics =
      mergeHeuristics evaluation.heuristics addition.named := by
  cases addition <;> rfl

theorem apply_derivation (addition : Addition) (evaluation : Evaluation) :
    (addition.apply evaluation).derivation = evaluation.derivation ++ addition.written := by
  cases addition with
  | tagged heuristic rationale => rfl
  | heuristics more => simp [Addition.apply, Addition.written, merge]
  | lines more => rfl

theorem apply_verdict (addition : Addition) (evaluation : Evaluation) :
    (addition.apply evaluation).verdict = evaluation.verdict := by
  cases addition <;> rfl

theorem extend_append (evaluation : Evaluation) (before after : List Addition) :
    evaluation.extend (before ++ after) = (evaluation.extend before).extend after :=
  List.foldl_append

theorem extend_heuristics (evaluation : Evaluation) (additions : List Addition) :
    (evaluation.extend additions).heuristics =
      mergeHeuristics evaluation.heuristics (additions.flatMap Addition.named) := by
  induction additions generalizing evaluation with
  | nil => rfl
  | cons addition rest restIH =>
      have next := restIH (addition.apply evaluation)
      rwa [apply_heuristics, ← mergeHeuristics_append] at next

theorem extend_derivation (evaluation : Evaluation) (additions : List Addition) :
    (evaluation.extend additions).derivation =
      evaluation.derivation ++ additions.flatMap Addition.written := by
  induction additions generalizing evaluation with
  | nil => simp [extend]
  | cons addition rest restIH =>
      have next := restIH (addition.apply evaluation)
      rwa [apply_derivation, List.append_assoc] at next

theorem extend_verdict (evaluation : Evaluation) (additions : List Addition) :
    (evaluation.extend additions).verdict = evaluation.verdict := by
  induction additions generalizing evaluation with
  | nil => rfl
  | cons addition rest restIH =>
      exact (restIH (addition.apply evaluation)).trans (apply_verdict addition evaluation)

/-- Whatever is added to an evaluation without heuristics: each heuristic is noted once, where it was
named first, and keeps its place from then on. The lines stand in the order in which they were
added, and the verdict stays. -/
theorem extend_accumulates (fresh : evaluation.heuristics = []) (additions : List Addition) :
    ((evaluation.extend additions).heuristics =
        (additions.flatMap Addition.named).eraseDups ∧
      (evaluation.extend additions).heuristics.Nodup ∧
      ∀ before, before <+: additions →
        (evaluation.extend before).heuristics <+: (evaluation.extend additions).heuristics) ∧
    (evaluation.extend additions).derivation =
      evaluation.derivation ++ additions.flatMap Addition.written ∧
    ((evaluation.extend additions).value = evaluation.value ∧
      (evaluation.extend additions).classicalValue = evaluation.classicalValue ∧
      (evaluation.extend additions).isNonClassical = evaluation.isNonClassical) ∧
    ∀ (extended : Evaluation) (first second : List Heuristic),
      (extended.merge first).merge second = extended.merge (first ++ second) ∧
        (extended.merge first).merge first = extended.merge first := by
  have heuristics : (evaluation.extend additions).heuristics =
      (additions.flatMap Addition.named).eraseDups := by
    have merged := mergeHeuristics_eraseDups [] (additions.flatMap Addition.named)
    rw [extend_heuristics, fresh]
    exact merged
  have verdict := extend_verdict evaluation additions
  refine ⟨⟨heuristics, ?_, ?_⟩, extend_derivation evaluation additions, ?_, ?_⟩
  · rw [heuristics]
    exact nodup_eraseDups _
  · intro before leads
    obtain ⟨after, rfl⟩ := leads
    rw [extend_append, extend_heuristics (evaluation.extend before)]
    exact prefix_mergeHeuristics _ _
  · exact ⟨congrArg Verdict.value verdict, congrArg Verdict.classicalValue verdict,
      congrArg Verdict.isNonClassical verdict⟩
  · intro extended first second
    exact ⟨merge_merge extended first second, merge_again extended first⟩

/-- A heuristic that is merged before it is added, and one that is named in two lists. -/
theorem extend_accumulates_named_again :
    let evaluation : Evaluation := ⟨false, ["start"], true, some true, []⟩
    let additions : List Addition :=
      [.heuristics [.relevance, .closedWorld], .lines ["between"],
        .tagged .closedWorld "unknown", .heuristics [.boethiusThesis, .relevance]]
    evaluation.heuristics = [] ∧
      (evaluation.extend additions).heuristics = [.relevance, .closedWorld, .boethiusThesis] ∧
      (evaluation.extend additions).heuristics.Nodup ∧
      (evaluation.extend additions).derivation =
        ["start", "between", "[Heuristic: Closed-World Assumption]", "unknown"] ∧
      (evaluation.extend (additions.take 1)).heuristics <+:
        (evaluation.extend additions).heuristics ∧
      (evaluation.extend additions).classicalValue = some true := by
  intro evaluation additions
  have fresh : evaluation.heuristics = [] := rfl
  obtain ⟨⟨heuristics, nodup, grows⟩, derivation, ⟨_, classical, _⟩, _⟩ :=
    extend_accumulates fresh additions
  exact ⟨fresh, heuristics.trans (by decide), nodup, derivation.trans (by decide),
    grows _ (List.take_prefix 1 additions), classical⟩

end Evaluation

end Connexive
