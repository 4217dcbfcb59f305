import Connexive.Text.Case

namespace Connexive.Text

/-! The length of a text in lower case. A final sigma is as long as any other, so the length is that
of the characters one by one, whatever stands around them.
-/

theorem length_lowerFrom (before chars : List Char) :
    (lowerFrom before chars).length = (chars.flatMap lowerChar).length := by
  induction chars generalizing before with
  | nil => rfl
  | cons c rest restIH =>
      rw [lowerFrom, List.flatMap_cons, List.length_append, List.length_append, restIH]
      have sameLength (final : Bool) :
          (if c = 'Σ' && final then ['ς'] else lowerChar c).length = (lowerChar c).length := by
        split
        · next sigma =>
            rw [Bool.and_eq_true, decide_eq_true_eq] at sigma
            rw [sigma.1]
            decide
        · rfl
      rw [Bool.and_assoc, sameLength]

theorem length_lower_append (text more : String) :
    (lower (text ++ more)).length = (lower text).length + (lower more).length := by
  simp [lower, length_lowerFrom]

end Connexive.Text
