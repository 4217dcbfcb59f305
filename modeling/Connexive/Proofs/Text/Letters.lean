import Connexive.Proofs.Text.CaseRuns

namespace Connexive.Text

/-! One letter in its other case. A letter in lower case stays as it is in lower case. In capitals
most letters become one other letter that has case where they have it, and come back from it; of
those that do not, some become longer and never shrink again.
-/

variable {c d : Char} {code : Nat}

theorem toNat_ofNat_of_valid (valid : code.isValidChar) : (Char.ofNat code).toNat = code := by
  rw [Char.ofNat, dif_pos valid]
  rfl

theorem ofNat_of_invalid (invalid : ¬ code.isValidChar) : Char.ofNat code = '\x00' := by
  rw [Char.ofNat, dif_neg invalid]
  rfl

theorem eq_toNat_of_ofNat_eq (same : Char.ofNat code = c) (positive : 0 < c.toNat) :
    code = c.toNat := by
  by_cases valid : code.isValidChar
  · rw [← same, toNat_ofNat_of_valid valid]
  · rw [← same, ofNat_of_invalid valid] at positive
    contradiction

theorem eq_dotted_of_ofNat_eq {runs : List CaseRun} (alone : sources runs 0x130 = [])
    (same : Char.ofNat (shifted runs c.toNat) = 'İ') : c = 'İ' := by
  have moved := eq_toNat_of_ofNat_eq same (by decide)
  obtain stays | led := eq_or_mem_sources moved (by decide)
  · exact Char.toNat_inj.mp stays
  · rw [show 'İ'.toNat = 0x130 from rfl, alone] at led
    contradiction

/-- Beside the dotted capital I, which alone has a long lower-case form, one table says it all. -/
theorem lowerChar_eq (undotted : c ≠ 'İ') :
    lowerChar c = [Char.ofNat (shifted capitalRuns c.toNat)] := by
  rw [lowerChar, capitalRuns, shifted_asciiRun (by decide) lowerRuns_beyond_ascii]
  split
  · split
    · rfl
    · rw [Char.ofNat_toNat]
  · rfl

theorem lowerChar_dotted : lowerChar 'İ' = ['i', '\u0307'] := rfl

theorem lowerChar_of_mem_lowerChar (member : d ∈ lowerChar c) : lowerChar d = [d] := by
  by_cases dotted : c = 'İ'
  · rw [dotted, lowerChar_dotted] at member
    obtain rfl | rfl : d = 'i' ∨ d = '\u0307' := by simpa using member
    all_goals decide
  · rw [lowerChar_eq dotted, List.mem_singleton] at member
    have undotted : d ≠ 'İ' := fun same =>
      dotted (eq_dotted_of_ofNat_eq (by decide) (member.symm.trans same))
    rw [lowerChar_eq undotted, member]
    by_cases valid : (shifted capitalRuns c.toNat).isValidChar
    · rw [toNat_ofNat_of_valid valid, shifted_shifted capitalRuns_settled]
    · rw [ofNat_of_invalid valid]
      decide

theorem length_le_flatMap_lowerChar (chars : List Char) :
    chars.length ≤ (chars.flatMap lowerChar).length := by
  induction chars with
  | nil => exact Nat.le_refl 0
  | cons c rest restIH =>
      have some : 0 < (lowerChar c).length := by
        by_cases dotted : c = 'İ'
        · rw [dotted, lowerChar_dotted]
          decide
        · rw [lowerChar_eq dotted]
          exact Nat.zero_lt_one
      rw [List.flatMap_cons, List.length_append, List.length_cons]
      omega

theorem longUppers_long :
    (longUppers.all fun entry => entry.1 != 0x130 && Nat.ble 2 entry.2.length &&
      !(entry.2.map Char.ofNat).contains 'Σ') = true := by
  rfl

theorem upperChar_cases (c : Char) :
    (c ≠ 'İ' ∧ 2 ≤ (upperChar c).length ∧ 'Σ' ∉ upperChar c) ∨
      upperChar c = [Char.ofNat (shifted smallRuns c.toNat)] := by
  rw [upperChar, smallRuns, shifted_asciiRun (by decide) upperRuns_beyond_ascii]
  split
  · right
    split
    · rw [show ((c.toNat : Int) + -32).toNat = c.toNat - 32 by omega]
    · rw [Char.ofNat_toNat]
  · cases found : longUppers.lookup c.toNat with
    | none => exact .inr rfl
    | some codes =>
        obtain ⟨before, after, split, _⟩ := List.lookup_eq_some_iff.mp found
        have long := List.all_eq_true.mp longUppers_long (c.toNat, codes) (split ▸ by simp)
        simp only [Bool.and_eq_true, Bool.not_eq_true', bne_iff_ne, Nat.ble_eq, ne_eq,
          List.contains_eq_mem, decide_eq_false_iff_not] at long
        refine .inl ⟨fun dotted => long.1.1 (dotted ▸ rfl), ?_, long.2⟩
        rw [List.length_map]
        exact long.1.2

/-- Whether a letter is back in lower case when its capital is written small. -/
def comesBack (c : Char) : Bool :=
  (upperChar c).flatMap lowerChar == lowerChar c

/-- A capital of several characters has no small form of one, and the others are no shorter than
their letter either. -/
theorem length_lowerChar_le (c : Char) :
    (lowerChar c).length ≤ ((upperChar c).flatMap lowerChar).length ∧
      (2 ≤ (upperChar c).length →
        (lowerChar c).length < ((upperChar c).flatMap lowerChar).length) := by
  have grown := length_le_flatMap_lowerChar (upperChar c)
  by_cases dotted : c = 'İ'
  · rw [dotted]
    decide
  · rw [lowerChar_eq dotted, List.length_singleton]
    obtain ⟨_, long, _⟩ | single := upperChar_cases c
    · omega
    · rw [single, List.length_singleton] at grown ⊢
      exact ⟨grown, by omega⟩

theorem upperChar_of_comesBack (back : comesBack c = true) :
    upperChar c = [Char.ofNat (shifted smallRuns c.toNat)] := by
  obtain ⟨_, long, _⟩ | single := upperChar_cases c
  · have longer := (length_lowerChar_le c).2 long
    rw [eq_of_beq back] at longer
    omega
  · exact single

/-- A letter that does not come back grows, or its place is taken by another one. -/
theorem lost_cases (lost : comesBack c = false) :
    2 ≤ (upperChar c).length ∨
      ∃ small other, lowerChar c = [small] ∧ (upperChar c).flatMap lowerChar = [other] ∧
        other ≠ small := by
  obtain ⟨_, long, _⟩ | single := upperChar_cases c
  · exact .inl long
  · have undotted : c ≠ 'İ' := by
      rintro rfl
      exact absurd lost (by decide)
    have capitalUndotted : Char.ofNat (shifted smallRuns c.toNat) ≠ 'İ' := fun same =>
      undotted (eq_dotted_of_ofNat_eq (by decide) same)
    rw [comesBack, beq_eq_false_iff_ne, single, List.flatMap_singleton,
      lowerChar_eq capitalUndotted, lowerChar_eq undotted] at lost
    rw [single, List.flatMap_singleton, lowerChar_eq capitalUndotted, lowerChar_eq undotted]
    exact .inr ⟨_, _, rfl, rfl, fun same => lost (congrArg ([·]) same)⟩

/-- Only a sigma has the capital sigma for its capital. -/
theorem sigma_of_mem_upperChar (member : 'Σ' ∈ upperChar c) : c = 'Σ' ∨ c = 'σ' ∨ c = 'ς' := by
  obtain ⟨_, _, none⟩ | single := upperChar_cases c
  · contradiction
  · rw [single, List.mem_singleton] at member
    have moved := eq_toNat_of_ofNat_eq member.symm (by decide)
    obtain stays | led := eq_or_mem_sources moved (by decide)
    · exact .inl (Char.toNat_inj.mp stays)
    · rw [show sources smallRuns 'Σ'.toNat = ['ς'.toNat, 'σ'.toNat] from rfl] at led
      simp only [List.mem_cons, List.not_mem_nil, or_false, Char.toNat_inj] at led
      exact .inr led.symm

/-- A letter that comes back and its capital look the same to a sigma beside them. -/
theorem alike_of_comesBack (back : comesBack c = true) :
    ∃ capital, upperChar c = [capital] ∧ isCaseIgnorable capital = isCaseIgnorable c ∧
      isCased capital = isCased c := by
  refine ⟨_, upperChar_of_comesBack back, ?_⟩
  have letter : c.toNat ≠ 0x345 := by
    intro iota
    rw [show c = Char.ofNat 0x345 from iota ▸ (Char.ofNat_toNat c).symm] at back
    exact absurd back (by decide)
  obtain same | ⟨cased, capitalCased⟩ := cased_shifted letter
  · rw [same, Char.ofNat_toNat]
    exact ⟨rfl, rfl⟩
  · have valid := isValidChar_of_cased capitalCased
    simp only [isCaseIgnorable, isCased, toNat_ofNat_of_valid valid, cased, capitalCased,
      not_caseIgnorable_of_cased cased, not_caseIgnorable_of_cased capitalCased, and_self]

end Connexive.Text
