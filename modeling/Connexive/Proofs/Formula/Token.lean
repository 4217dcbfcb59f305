import Connexive.Formula.Token

namespace Connexive

/-! What a token is, told from its text alone: a keyword is known by its upper-case form, a
parenthesis by itself, and whatever remains is an operand.
-/

theorem Connective.ofToken?_eq_some_iff {token : String} {op : Connective} :
    ofToken? token = some op ↔ Text.upper token = op.keyword := by
  unfold ofToken? ofKeyword?
  constructor
  · intro found
    have matched := List.find?_some found
    exact (eq_of_beq matched).symm
  · intro written
    rw [written]
    cases op <;> decide

theorem Connective.ofToken?_eq_none_iff {token : String} :
    ofToken? token = none ↔ ∀ op : Connective, Text.upper token ≠ op.keyword := by
  simp only [Option.eq_none_iff_forall_ne_some, ne_eq, ofToken?_eq_some_iff]

namespace Token

/-- A token that names an atom. -/
structure IsOperand (token : String) : Prop where
  notKeyword : ∀ op : Connective, Text.upper token ≠ op.keyword
  notOpening : token ≠ "("
  notClosing : token ≠ ")"

theorem isOperand_iff {token : String} :
    IsOperand token ↔ Connective.ofToken? token = none ∧ token ≠ "(" ∧ token ≠ ")" := by
  rw [Connective.ofToken?_eq_none_iff]
  exact ⟨fun operand => ⟨operand.1, operand.2, operand.3⟩, fun parts => ⟨parts.1, parts.2.1, parts.2.2⟩⟩

instance (token : String) : Decidable (IsOperand token) :=
  decidable_of_iff _ isOperand_iff.symm

/-- The text of a token of each kind. -/
inductive Written : Token → String → Prop
  | connective {op : Connective} {text : String} (keyword : Text.upper text = op.keyword) :
      Written (.connective op) text
  | opening : Written .opening "("
  | closing : Written .closing ")"
  | operand {text : String} (isOperand : IsOperand text) : Written (.operand text) text

theorem ofText_written (text : String) : Written (ofText text) text := by
  unfold ofText
  cases keyword : Connective.ofToken? text with
  | some op => exact .connective (Connective.ofToken?_eq_some_iff.mp keyword)
  | none =>
      dsimp only
      split
      · next opens => exact opens ▸ .opening
      · split
        · next closes => exact closes ▸ .closing
        · next opens closes =>
            exact .operand ⟨Connective.ofToken?_eq_none_iff.mp keyword, opens, closes⟩

theorem Written.ofText_eq {token : Token} {text : String} (written : Written token text) :
    ofText text = token := by
  cases written with
  | connective keyword =>
      unfold ofText
      rw [Connective.ofToken?_eq_some_iff.mpr keyword]
  | opening => rfl
  | closing => rfl
  | operand isOperand =>
      unfold ofText
      rw [Connective.ofToken?_eq_none_iff.mpr isOperand.notKeyword]
      dsimp only
      rw [if_neg isOperand.notOpening, if_neg isOperand.notClosing]

end Token

end Connexive
