import Mathlib.Data.List.Nodup
import Mathlib.Data.List.Perm.Subperm
import Connexive.Proofs.Formula.Conservation
import Connexive.Proofs.Formula.TextStacks

namespace Connexive

/-! What waits on the stack of operators while a formula is read: at any token the connectives of
one group bind tighter towards the top, so no group has more than one of each. Over texts this is
why a reading finds an entry for every operator, applies no parenthesis, and ends in a formula or a
refusal.
-/

namespace ParseState

variable {state next : ParseState} {operands : List Formula} {pending below : List Pending}
  {bound : Nat} {token : String} {tokens : List String} {ops : List Connective}

/-- Every pending connective binds tighter than what is below it in its group. -/
def Ordered : List Pending → Prop
  | [] => True
  | .paren :: pending => Ordered pending
  | .connective op :: pending => Yields op.precedence pending ∧ Ordered pending

theorem Ordered.tail {top : Pending} (ordered : Ordered (top :: pending)) : Ordered pending := by
  cases top with
  | paren => exact ordered
  | connective op => exact ordered.2

theorem Ordered.of_append {above : List Pending} (ordered : Ordered (above ++ pending)) :
    Ordered pending := by
  induction above with
  | nil => exact ordered
  | cons top above aboveIH => exact aboveIH ordered.tail

theorem reduce_ordered (ordered : Ordered pending)
    (reduced : reduce bound operands pending = .ok next) :
    Ordered next.pending ∧ Yields bound next.pending :=
  reduce_invariant (motive := fun _ waiting => Ordered waiting) (fun _ kept => kept.tail) ordered
    reduced

theorem Stepped.ordered (stepped : Stepped state token next) (ordered : Ordered state.pending) :
    Ordered next.pending := by
  cases stepped with
  | operand _ => exact ordered
  | opening => exact ordered
  | closing reduced =>
      have kept := reduce_ordered ordered reduced
      exact kept.1.tail
  | connective _ reduced =>
      -- What binds as tight as the new connective is gone, so the rest of the group lets it on top.
      have kept := reduce_ordered ordered reduced
      exact ⟨kept.2, kept.1⟩

theorem steps_ordered (read : start.steps tokens = .ok next) : Ordered next.pending :=
  @steps_invariant start next (fun state _ => Ordered state.pending)
    (fun stepped ordered => stepped.ordered ordered) [] tokens trivial read

theorem Ordered.pairwise (ordered : Ordered (ops.map .connective ++ below)) :
    (ops.map Connective.precedence).Pairwise (· > ·) := by
  -- Neighbours are compared by the stack itself; the rest is transitivity.
  have chain : (ops.map Connective.precedence).IsChain (· > ·) := by
    induction ops with
    | nil => exact .nil
    | cons top rest restIH =>
        have tighter := restIH ordered.2
        cases rest with
        | nil => exact .singleton _
        | cons second rest => exact .cons_cons ordered.1 tighter
  exact chain.pairwise

/-- A group has at most one of each connective. -/
theorem Ordered.length_le (ordered : Ordered (ops.map .connective ++ below)) : ops.length ≤ 4 := by
  have apart : (ops.map Connective.precedence).Nodup := ordered.pairwise.imp Nat.ne_of_gt
  have known : ops ⊆ [.not, .and, .or, .implies] := by
    intro op _
    cases op <;> simp
  exact (apart.of_map.subperm known).length_le

end ParseState

namespace TextStacks

open ParseState

variable {before group : List String} {pending : List Pending} {state : ParseState}

theorem count_paren (pending : List Pending) :
    (pending.map Pending.text).count "(" = pending.count .paren := by
  induction pending with
  | nil => rfl
  | cons top pending pendingIH =>
      cases top with
      | paren => simpa [Pending.text] using pendingIH
      | connective op => simpa [Pending.text, keyword_ne_paren op] using pendingIH

theorem exists_connectives (noParen : "(" ∉ pending.map Pending.text) :
    ∃ ops : List Connective, pending = ops.map .connective := by
  induction pending with
  | nil => exact ⟨[], rfl⟩
  | cons top pending pendingIH =>
      rw [List.map_cons, List.mem_cons, not_or] at noParen
      obtain ⟨ops, rest⟩ := pendingIH noParen.2
      cases top with
      | paren => exact absurd rfl noParen.1
      | connective op => exact ⟨op :: ops, by rw [rest, List.map_cons]⟩

/-- The texts of a group stand for connectives that bind tighter towards the top. -/
theorem group_of_ordered (ordered : Ordered pending) (within : group <:+: pending.map Pending.text)
    (noParen : "(" ∉ group) :
    ∃ ops : List Connective, group = ops.map Connective.keyword ∧
      (ops.map Connective.precedence).Pairwise (· > ·) ∧ ops.length ≤ 4 := by
  obtain ⟨upper, lower, texts⟩ := within
  obtain ⟨top, below, rfl, topTexts, _⟩ := List.map_eq_append_iff.mp texts.symm
  obtain ⟨above, middle, rfl, _, rfl⟩ := List.map_eq_append_iff.mp topTexts
  obtain ⟨ops, rfl⟩ := exists_connectives noParen
  rw [List.append_assoc] at ordered
  have inGroup := ordered.of_append
  exact ⟨ops, by rw [List.map_map]; rfl, inGroup.pairwise, inGroup.length_le⟩

/-- What is pending after the tokens `before`, with the top first. -/
structure WellStacked (before operators : List String) : Prop where
  known : ∀ operator ∈ operators, operator ∈ ["(", "NOT", "AND", "OR", "RELEVANTLY_IMPLIES"]
  depth : operators.count "(" + before.count ")" = before.count "("
  falling : ∀ group, group <:+: operators → "(" ∉ group → ∃ levels : List Nat,
    group.map (fun operator => precedences.lookup operator) = levels.map some ∧
      levels.Pairwise (· > ·)
  few : ∀ group, group <:+: operators → "(" ∉ group → group.length ≤ 4

theorem WellStacked.of_steps (walked : start.steps before = .ok state) :
    WellStacked before (state.pending.map Pending.text) := by
  have ordered := steps_ordered walked
  refine ⟨fun operator pends => ?_, ?_, fun group within noParen => ?_,
    fun group within noParen => ?_⟩
  · obtain ⟨top, _, rfl⟩ := List.mem_map.mp pends
    cases top with
    | paren => simp [Pending.text]
    | connective op => cases op <;> simp [Pending.text, Connective.keyword]
  · have parens := steps_parens walked
    rw [count_paren]
    omega
  · obtain ⟨ops, rfl, levels, _⟩ := group_of_ordered ordered within noParen
    exact ⟨ops.map Connective.precedence, by simp [lookup_keyword], levels⟩
  · obtain ⟨ops, rfl, _, few⟩ := group_of_ordered ordered within noParen
    simpa using few

/-- At any token the operators are well stacked, and the stacks are those of the reading with
connectives. So a reading over texts ends in a formula or refuses the tokens, and only keywords are
ever applied: what `other` does with another text is never asked for. -/
theorem operators_wellStacked (tokens : List String) :
    (∀ before,
      walk (apply tokens) tokens before = outcome tokens ofState (start.steps before) ∧
        ∀ held, walk (apply tokens) tokens before = .ok held →
          WellStacked before held.operators) ∧
      read (apply tokens) tokens = (Formula.parse tokens).mapError Halt.ofError ∧
      ((∃ formula, read (apply tokens) tokens = .ok formula) ∨
        ∃ message kind, read (apply tokens) tokens = .error (.refused message kind tokens)) ∧
      ∀ other : Application,
        (∀ operands (op : Connective), other operands op.keyword = apply tokens operands op.keyword) →
          (∀ before, walk other tokens before = walk (apply tokens) tokens before) ∧
            read other tokens = read (apply tokens) tokens := by
  have applies := apply_appliesKeywords tokens
  refine ⟨fun before => ⟨walk_eq applies before, fun held walked => ?_⟩, read_eq applies, ?_,
    fun other alike => ?_⟩
  · rw [walk_eq applies] at walked
    cases steps : start.steps before with
    | error cause =>
        rw [steps] at walked
        contradiction
    | ok state =>
        rw [steps] at walked
        cases walked
        exact .of_steps steps
  · rw [read_eq applies]
    cases parsed : Formula.parse tokens with
    | ok formula => exact .inl ⟨formula, rfl⟩
    | error error =>
        have same := (Formula.parse_error_iff.mp parsed).2
        exact .inr ⟨_, _, by rw [← same]; rfl⟩
  · have otherApplies : AppliesKeywords other tokens := fun operands op =>
      (alike operands op).trans (applies operands op)
    exact ⟨fun before => by rw [walk_eq otherApplies, walk_eq applies],
      by rw [read_eq otherApplies, read_eq applies]⟩

/-- Inside an open group, where another application stops at a parenthesis. -/
theorem operators_wellStacked_in_group :
    WellStacked ["(", "a", "or", "Not"] ["NOT", "OR", "("] ∧
      read (fun operands operator =>
          if operator = "(" then .error .nothingLeft
          else apply ["(", "a", "or", "Not", "b", ")", "AND", "c"] operands operator)
        ["(", "a", "or", "Not", "b", ")", "AND", "c"] =
          .ok (.and (.or (.atom "a") (.not (.atom "b"))) (.atom "c")) := by
  obtain ⟨stacked, _, _, keywordsOnly⟩ :=
    operators_wellStacked ["(", "a", "or", "Not", "b", ")", "AND", "c"]
  constructor
  · have walked : walk (apply ["(", "a", "or", "Not", "b", ")", "AND", "c"])
        ["(", "a", "or", "Not", "b", ")", "AND", "c"] ["(", "a", "or", "Not"] =
          .ok ⟨[.atom "a"], ["NOT", "OR", "("]⟩ := by rfl
    exact (stacked _).2 _ walked
  · have alike := keywordsOnly (fun operands operator =>
      if operator = "(" then .error .nothingLeft
      else apply ["(", "a", "or", "Not", "b", ")", "AND", "c"] operands operator)
      fun operands op => if_neg (keyword_ne_paren op)
    rw [alike.2]
    rfl

end TextStacks

end Connexive
