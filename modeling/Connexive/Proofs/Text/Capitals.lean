import Connexive.Proofs.Text.Case
import Connexive.Proofs.Text.Letters

namespace Connexive.Text

/-! Texts that are back in lower case after they were put in capitals. Letter by letter this asks
that each comes back from its capital. Only a small sigma needs its neighbours: its capital comes
back in the form that the place asks for, so it must have had that form before.
-/

variable {before capitals chars more rest : List Char} {c : Char} {text : String}

/-- The form that lower case gives to a sigma between these neighbours. -/
def smallSigma (before rest : List Char) : Char :=
  if meetsCased before && !meetsCased rest then 'ς' else 'σ'

/-- Whether a letter between these neighbours is back in its own form. -/
def comesBackBetween (before : List Char) (c : Char) (rest : List Char) : Bool :=
  if c = 'σ' ∨ c = 'ς' then c == smallSigma before rest else comesBack c

def comesBackFrom (before : List Char) : List Char → Bool
  | [] => true
  | c :: rest => comesBackBetween before c rest && comesBackFrom (c :: before) rest

/-- Whether every letter of a text comes back from capitals. -/
def survivesCapitals (text : String) : Bool :=
  comesBackFrom [] text.toList

theorem meetsCased_cons (c : Char) (rest : List Char) :
    meetsCased (c :: rest) = if isCaseIgnorable c then meetsCased rest else isCased c := by
  rw [meetsCased, List.dropWhile_cons]
  cases isCaseIgnorable c <;> rfl

theorem lowerFrom_sigma (before rest : List Char) :
    lowerFrom before ('Σ' :: rest) =
      smallSigma before rest :: lowerFrom ('Σ' :: before) rest := by
  have small : lowerChar 'Σ' = ['σ'] := by decide
  rw [lowerFrom, smallSigma, small]
  cases meetsCased before <;> cases meetsCased rest <;> rfl

theorem lowerFrom_cons (other : c ≠ 'Σ') :
    lowerFrom before (c :: rest) = lowerChar c ++ lowerFrom (c :: before) rest := by
  simp [lowerFrom, other]

theorem lowerFrom_append (plain : 'Σ' ∉ chars) :
    lowerFrom before (chars ++ more) =
      chars.flatMap lowerChar ++ lowerFrom (chars.reverse ++ before) more := by
  induction chars generalizing before with
  | nil => rfl
  | cons c rest restIH =>
      obtain ⟨other, plainRest⟩ := not_or.mp (mt List.mem_cons.mpr plain)
      rw [List.cons_append, lowerFrom_cons (Ne.symm other), restIH plainRest]
      simp

theorem lowerChar_of_mem_lowerFrom (member : c ∈ lowerFrom before chars) : lowerChar c = [c] := by
  induction chars generalizing before with
  | nil => contradiction
  | cons first rest restIH =>
      by_cases sigma : first = 'Σ'
      · rw [sigma, lowerFrom_sigma] at member
        obtain rfl | later := List.mem_cons.mp member
        · rw [smallSigma]
          split <;> decide
        · exact restIH later
      · rw [lowerFrom_cons sigma] at member
        obtain here | later := List.mem_append.mp member
        · exact lowerChar_of_mem_lowerChar here
        · exact restIH later

/-- A text of small letters is left alone. -/
theorem lowerFrom_of_small (small : ∀ c ∈ chars, lowerChar c = [c]) :
    lowerFrom before chars = chars := by
  induction chars generalizing before with
  | nil => rfl
  | cons c rest restIH =>
      have own := small c List.mem_cons_self
      have other : c ≠ 'Σ' := by
        rintro rfl
        revert own
        decide
      rw [lowerFrom_cons other, own,
        restIH fun later member => small later (List.mem_cons_of_mem _ member)]
      rfl

theorem lower_lower (text : String) : lower (lower text) = lower text := by
  rw [lower, lower, String.toList_ofList,
    lowerFrom_of_small fun _ member => lowerChar_of_mem_lowerFrom member]

theorem alike_of_sigma (sigma : c = 'Σ' ∨ c = 'σ' ∨ c = 'ς') :
    upperChar c = ['Σ'] ∧ isCaseIgnorable 'Σ' = isCaseIgnorable c ∧ isCased 'Σ' = isCased c := by
  obtain rfl | rfl | rfl := sigma <;> decide

theorem alike_of_comesBackBetween (back : comesBackBetween before c rest = true) :
    ∃ capital, upperChar c = [capital] ∧ isCaseIgnorable capital = isCaseIgnorable c ∧
      isCased capital = isCased c := by
  rw [comesBackBetween] at back
  split at back
  · next small => exact ⟨'Σ', alike_of_sigma (.inr small)⟩
  · exact alike_of_comesBack back

theorem meetsCased_cons_congr {capital : Char}
    (ignorable : isCaseIgnorable capital = isCaseIgnorable c) (cased : isCased capital = isCased c)
    (around : meetsCased capitals = meetsCased before) :
    meetsCased (capital :: capitals) = meetsCased (c :: before) := by
  rw [meetsCased_cons, meetsCased_cons, ignorable, cased, around]

/-- A letter that comes back leaves its neighbours between the same kinds of letters. -/
theorem meetsCased_upper (back : comesBackFrom before chars = true) :
    meetsCased (chars.flatMap upperChar) = meetsCased chars := by
  induction chars generalizing before with
  | nil => rfl
  | cons c rest restIH =>
      obtain ⟨here, later⟩ := Bool.and_eq_true_iff.mp back
      obtain ⟨capital, upper, ignorable, cased⟩ := alike_of_comesBackBetween here
      rw [List.flatMap_cons, upper, List.singleton_append]
      exact meetsCased_cons_congr ignorable cased (restIH later)

theorem smallSigma_upper (around : meetsCased capitals = meetsCased before)
    (back : comesBackFrom more rest = true) :
    smallSigma capitals (rest.flatMap upperChar) = smallSigma before rest := by
  rw [smallSigma, smallSigma, around, meetsCased_upper back]

/-- A sigma is written small in the form of its place, where a small one keeps its own. -/
theorem exists_form_of_sigma (sigma : c = 'Σ' ∨ c = 'σ' ∨ c = 'ς') (before rest : List Char) :
    ∃ form, lowerFrom before (c :: rest) = form :: lowerFrom (c :: before) rest ∧
      (smallSigma before rest = form ↔ comesBackBetween before c rest = true) := by
  obtain rfl | small := sigma
  · have capital : comesBackBetween before 'Σ' rest = true := by
      rw [comesBackBetween, if_neg (by decide)]
      decide
    exact ⟨_, lowerFrom_sigma before rest, by simp [capital]⟩
  · have own : lowerChar c = [c] := by
      obtain rfl | rfl := small <;> decide
    have other : c ≠ 'Σ' := by
      rintro rfl
      exact absurd small (by decide)
    refine ⟨c, by rw [lowerFrom_cons other, own, List.singleton_append], ?_⟩
    rw [comesBackBetween, if_pos small, beq_iff_eq, eq_comm]

theorem length_lowerFrom_le (capitals before chars : List Char) :
    (lowerFrom before chars).length ≤ (lowerFrom capitals (chars.flatMap upperChar)).length := by
  rw [length_lowerFrom, length_lowerFrom]
  induction chars with
  | nil => exact Nat.le_refl 0
  | cons c rest restIH =>
      have here := (length_lowerChar_le c).1
      simp only [List.flatMap_cons, List.flatMap_append, List.length_append]
      omega

theorem append_ne_of_lost (lost : comesBack c = false) (capitals before rest : List Char) :
    (upperChar c).flatMap lowerChar ++ lowerFrom capitals (rest.flatMap upperChar) ≠
      lowerChar c ++ lowerFrom before rest := by
  obtain long | ⟨small, other, own, gone, differ⟩ := lost_cases lost
  · intro same
    have lengths := congrArg List.length same
    rw [List.length_append, List.length_append] at lengths
    have longer := (length_lowerChar_le c).2 long
    have later := length_lowerFrom_le capitals before rest
    omega
  · rw [own, gone]
    exact fun same => differ (List.cons.inj same).1

/-- The induction is on the text, with the capitals already passed in the place of the letters: only
whether a letter with case came before matters of them. -/
theorem lowerFrom_upper_eq_iff (around : meetsCased capitals = meetsCased before) :
    lowerFrom capitals (chars.flatMap upperChar) = lowerFrom before chars ↔
      comesBackFrom before chars = true := by
  induction chars generalizing capitals before with
  | nil => simp [lowerFrom, comesBackFrom]
  | cons c rest restIH =>
      rw [List.flatMap_cons, comesBackFrom, Bool.and_eq_true]
      by_cases sigma : c = 'Σ' ∨ c = 'σ' ∨ c = 'ς'
      · obtain ⟨form, written, asked⟩ := exists_form_of_sigma sigma before rest
        obtain ⟨upper, ignorable, cased⟩ := alike_of_sigma sigma
        rw [upper, List.singleton_append, lowerFrom_sigma, written, List.cons.injEq,
          restIH (meetsCased_cons_congr ignorable cased around), ← asked]
        exact and_congr_left fun back => by rw [smallSigma_upper around back]
      · have other : c ≠ 'Σ' := fun same => sigma (.inl same)
        have plain : 'Σ' ∉ upperChar c := fun member => sigma (sigma_of_mem_upperChar member)
        rw [lowerFrom_append plain, lowerFrom_cons other, comesBackBetween,
          if_neg fun small => sigma (.inr small)]
        cases back : comesBack c with
        | false => simp [append_ne_of_lost back]
        | true =>
            obtain ⟨capital, upper, ignorable, cased⟩ := alike_of_comesBack back
            have same := restIH (meetsCased_cons_congr ignorable cased around)
            rw [eq_of_beq back, List.append_cancel_left_eq, upper, List.reverse_singleton,
              List.singleton_append, same, eq_self, true_and]

theorem lower_upper_eq_iff :
    lower (upper text) = lower text ↔ survivesCapitals text = true := by
  rw [lower, lower, upper, String.toList_ofList, String.ofList_inj, survivesCapitals]
  exact lowerFrom_upper_eq_iff rfl

/-- The dotless i takes its dot from its capital, and a sigma within a word must not be final. -/
example : survivesCapitals "ırmak" = false ∧ survivesCapitals "σοφός" = true ∧
    survivesCapitals "ςοφος" = false := by
  decide

theorem comesBack_of_ascii (ascii : c.toNat < 0x80) : comesBack c = true := by
  have table : ∀ code < 0x80, comesBack (Char.ofNat code) = true := by decide
  have here := table c.toNat ascii
  rwa [Char.ofNat_toNat] at here

theorem comesBackFrom_of_ascii (ascii : ∀ c ∈ chars, c.toNat < 0x80) :
    comesBackFrom before chars = true := by
  induction chars generalizing before with
  | nil => rfl
  | cons c rest restIH =>
      obtain ⟨here, later⟩ := List.forall_mem_cons.mp ascii
      have plain : ¬(c = 'σ' ∨ c = 'ς') := by
        rintro (rfl | rfl) <;> exact absurd here (by decide)
      rw [comesBackFrom, comesBackBetween, if_neg plain, comesBack_of_ascii here, restIH later]
      rfl

theorem survivesCapitals_of_ascii (ascii : ∀ c ∈ text.toList, c.toNat < 0x80) :
    survivesCapitals text = true :=
  comesBackFrom_of_ascii ascii

end Connexive.Text
