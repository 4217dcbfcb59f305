import Connexive.Proofs.Formula.Lockstep

namespace Connexive

/-! What reading sees of a token. A keyword counts up to the case of its letters, and an operand only
as being one, so tokens may be exchanged within these bounds: the reading takes the same turns, and
the formula has the new names where it had the old ones.
-/

/-- The formula with every name replaced by what `rename` makes of it. -/
def Formula.mapNames (rename : String → String) : Formula → Formula
  | atom name => atom (rename name)
  | not inner => not (inner.mapNames rename)
  | and left right => and (left.mapNames rename) (right.mapNames rename)
  | or left right => or (left.mapNames rename) (right.mapNames rename)
  | implies antecedent consequent =>
    implies (antecedent.mapNames rename) (consequent.mapNames rename)

/-- A token is replaced by one of its own kind: a parenthesis by itself, a keyword by another
spelling of it, and an operand by any operand, which may be another token's name. -/
structure KeepsKind (rename : String → String) (token : String) : Prop where
  opening : token = "(" → rename token = "("
  closing : token = ")" → rename token = ")"
  keyword : (Connective.ofToken? token).isSome → Text.upper (rename token) = Text.upper token
  operand : Token.IsOperand token → Token.IsOperand (rename token)

theorem keepsKind_iff {rename : String → String} {token : String} :
    KeepsKind rename token ↔
      (token = "(" → rename token = "(") ∧ (token = ")" → rename token = ")") ∧
        ((Connective.ofToken? token).isSome → Text.upper (rename token) = Text.upper token) ∧
        (Token.IsOperand token → Token.IsOperand (rename token)) :=
  ⟨fun keeps => ⟨keeps.1, keeps.2, keeps.3, keeps.4⟩,
    fun ⟨opening, closing, keyword, operand⟩ => ⟨opening, closing, keyword, operand⟩⟩

instance (rename : String → String) (token : String) : Decidable (KeepsKind rename token) :=
  decidable_of_iff _ keepsKind_iff.symm

open ParseState

/-- Operands beside the same operands under other names. -/
def Renamed (rename : String → String) (operands others : List Formula) : Prop :=
  others = operands.map (Formula.mapNames rename)

variable {rename : String → String} {tokens : List String} {token : String}

/-- A connective looks only at how many operands there are. -/
theorem combine_renamed (op : Connective) (operands : List Formula) :
    Agree (Renamed rename) (combine op operands)
      (combine op (operands.map (Formula.mapNames rename))) := by
  match op, operands with
  | .not, [] | .and, [] | .or, [] | .implies, [] => exact .refusals _
  | .and, [_] | .or, [_] | .implies, [_] => exact .refusals _
  | .not, _ :: _ => exact .results rfl
  | .and, _ :: _ :: _ | .or, _ :: _ :: _ | .implies, _ :: _ :: _ => exact .results rfl

theorem keptByCombining_renamed (rename : String → String) : KeptByCombining (Renamed rename) where
  sameLength renamed := by
    rw [renamed, List.length_map]
  combine {op operands _} renamed := by
    rw [renamed]
    exact combine_renamed op operands

theorem KeepsKind.alongside (keeps : KeepsKind rename token) :
    Alongside (Renamed rename) token (rename token) := by
  have written := Token.ofText_written token
  generalize Token.ofText token = kind at written
  cases written with
  | opening =>
      rw [keeps.opening rfl]
      exact .opening
  | closing =>
      rw [keeps.closing rfl]
      exact .closing
  | connective keyword =>
      have recognised : (Connective.ofToken? token).isSome := by
        rw [Connective.ofToken?_eq_some_iff.mpr keyword]
        rfl
      exact .connective keyword ((keeps.keyword recognised).trans keyword)
  | operand isOperand =>
      refine .operand isOperand (keeps.operand isOperand) fun renamed => ?_
      rw [renamed]
      rfl

theorem read_renamed (keeps : ∀ token ∈ tokens, KeepsKind rename token) :
    Agree (fun formula renamed => renamed = formula.mapNames rename) (Formula.read tokens)
      (Formula.read (tokens.map rename)) := by
  by_cases nothing : tokens = []
  · subst nothing
    exact .refusals _
  · have alongside : List.Forall₂ (Alongside (Renamed rename)) tokens (tokens.map rename) := by
      rw [List.forall₂_map_right_iff, List.forall₂_same]
      exact fun token member => (keeps token member).alongside
    have kept := keptByCombining_renamed rename
    rw [Formula.read_of_ne_nil nothing, Formula.read_of_ne_nil (by simpa using nothing)]
    have inStep : InStep (Renamed rename) start start := ⟨rfl, rfl⟩
    exact (steps_finish_agree kept alongside inStep).imp List.head_eq_of_cons_eq

/-- Tokens exchanged within their kinds. The list is read exactly if it was read before, into the
formula with its names exchanged, and it is refused for the cause for which it was refused. -/
theorem parse_renamed (keeps : ∀ token ∈ tokens, KeepsKind rename token) :
    ((∃ renamed, Formula.parse (tokens.map rename) = .ok renamed) ↔
      ∃ formula, Formula.parse tokens = .ok formula) ∧
    (∀ formula, Formula.parse tokens = .ok formula →
      Formula.parse (tokens.map rename) = .ok (formula.mapNames rename)) ∧
    ∀ error, Formula.parse tokens = .error error →
      Formula.parse (tokens.map rename) = .error ⟨error.cause, tokens.map rename⟩ := by
  rcases (read_renamed keeps).cases with
    ⟨formula, renamed, read, otherRead, rfl⟩ | ⟨cause, refused, otherRefused⟩
  · have parsed := Formula.parse_iff.mpr read
    have otherParsed := Formula.parse_iff.mpr otherRead
    simp [parsed, otherParsed]
  · have failed : Formula.parse tokens = .error ⟨cause, tokens⟩ :=
      Formula.parse_error_iff.mpr ⟨refused, rfl⟩
    have otherFailed : Formula.parse (tokens.map rename) = .error ⟨cause, tokens.map rename⟩ :=
      Formula.parse_error_iff.mpr ⟨otherRefused, rfl⟩
    simp [failed, otherFailed]

/-- Two names become one, and the keyword is written with letters that have their capitals among the
letters of ASCII. One of the two lists has no operand behind it. -/
theorem parse_renamed_foreign_letters :
    let rename : String → String := fun token =>
      if token = "a" ∨ token = "B" then "c"
      else if token = "relevantly_implies" then "Relevantly_ımplıeſ"
      else token
    (∀ token ∈ ["a", "and", "not", "B", "relevantly_implies", "a"], KeepsKind rename token) ∧
      Formula.parse (["a", "and", "not", "B", "relevantly_implies", "a"].map rename) =
        .ok (.implies (.and (.atom "c") (.not (.atom "c"))) (.atom "c")) ∧
      (∀ token ∈ ["a", "relevantly_implies"], KeepsKind rename token) ∧
      Formula.parse (["a", "relevantly_implies"].map rename) =
        .error ⟨.missingOperand .implies, ["c", "Relevantly_ımplıeſ"]⟩ := by
  intro rename
  have keeps : ∀ token ∈ ["a", "and", "not", "B", "relevantly_implies", "a"],
      KeepsKind rename token := by decide
  have keepsShort : ∀ token ∈ ["a", "relevantly_implies"], KeepsKind rename token := by decide
  have parsed : Formula.parse ["a", "and", "not", "B", "relevantly_implies", "a"] =
      .ok (.implies (.and (.atom "a") (.not (.atom "B"))) (.atom "a")) := by rfl
  have refused : Formula.parse ["a", "relevantly_implies"] =
      .error ⟨.missingOperand .implies, ["a", "relevantly_implies"]⟩ := by rfl
  exact ⟨keeps, (parse_renamed keeps).2.1 _ parsed, keepsShort,
    (parse_renamed keepsShort).2.2 _ refused⟩

end Connexive
