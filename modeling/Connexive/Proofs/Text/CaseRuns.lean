import Connexive.Text.Case
import Mathlib.Data.List.Chain

namespace Connexive.Text

/-! What the tables of letter case say, taken as sets of code points. A set is written as one number
with a bit for each of its members, so that the kernel meets two tables in one step, where a test of
every run against every other takes it seconds.
-/

/-- The code points of a list, each as one bit of a number. -/
def bits (codes : List Nat) : Nat :=
  codes.foldr (fun code set => 1 <<< code ||| set) 0

theorem testBit_bits (codes : List Nat) (code : Nat) :
    (bits codes).testBit code = decide (code ∈ codes) := by
  induction codes with
  | nil => exact Nat.zero_testBit code
  | cons first rest restIH =>
      have step : bits (first :: rest) = 1 <<< first ||| bits rest := rfl
      rw [step, Nat.testBit_or, Nat.one_shiftLeft, Nat.testBit_two_pow, restIH]
      simp [eq_comm]

theorem not_mem_of_bits {codes others : List Nat} {code : Nat}
    (apart : bits codes &&& bits others = 0) (member : code ∈ codes) : code ∉ others := by
  intro also
  have both : (bits codes &&& bits others).testBit code = true := by
    simp [testBit_bits, member, also]
  rw [apart, Nat.zero_testBit] at both
  contradiction

theorem testBit_of_mem_bits {codes : List Nat} {code set : Nat}
    (inside : bits codes &&& set = bits codes) (member : code ∈ codes) :
    set.testBit code = true := by
  have here : (bits codes).testBit code = true := by rw [testBit_bits, decide_eq_true member]
  rw [← inside, Nat.testBit_and, Bool.and_eq_true] at here
  exact here.2

section Ranges

variable {ranges : List (Nat × Nat)} {code : Nat}

/-- The code points of some ranges, as `bits` has those of a list. -/
def rangeBits (ranges : List (Nat × Nat)) : Nat :=
  ranges.foldr (fun range set => (1 <<< (range.2 + 1 - range.1) - 1) <<< range.1 ||| set) 0

theorem testBit_rangeBits (ranges : List (Nat × Nat)) (code : Nat) :
    (rangeBits ranges).testBit code = true ↔
      ∃ range ∈ ranges, range.1 ≤ code ∧ code ≤ range.2 := by
  induction ranges with
  | nil => simp [rangeBits]
  | cons range rest restIH =>
      have step : rangeBits (range :: rest) =
        (1 <<< (range.2 + 1 - range.1) - 1) <<< range.1 ||| rangeBits rest := rfl
      have own : code ≥ range.1 ∧ code - range.1 < range.2 + 1 - range.1 ↔
          range.1 ≤ code ∧ code ≤ range.2 := by
        omega
      rw [step, Nat.testBit_or, Bool.or_eq_true, restIH, Nat.testBit_shiftLeft, Nat.one_shiftLeft,
        Nat.testBit_two_pow_sub_one, Bool.and_eq_true, decide_eq_true_eq, decide_eq_true_eq, own]
      simp

theorem inRanges_cons {range : Nat × Nat} :
    inRanges (range :: ranges) code = true ↔
      range.1 ≤ code ∧ (code ≤ range.2 ∨ inRanges ranges code = true) := by
  simp [inRanges]

theorem testBit_of_inRanges (held : inRanges ranges code = true) :
    (rangeBits ranges).testBit code = true := by
  rw [testBit_rangeBits]
  induction ranges with
  | nil => contradiction
  | cons range rest restIH =>
      obtain ⟨above, below | later⟩ := inRanges_cons.mp held
      · exact ⟨range, List.mem_cons_self, above, below⟩
      · obtain ⟨found, member, bounds⟩ := restIH later
        exact ⟨found, List.mem_cons_of_mem _ member, bounds⟩

/-- The search through ranges in rising order misses none of them. -/
theorem inRanges_iff_testBit (rising : ranges.Pairwise fun range later => range.1 ≤ later.1) :
    inRanges ranges code = true ↔ (rangeBits ranges).testBit code = true := by
  refine ⟨testBit_of_inRanges, fun held => ?_⟩
  obtain ⟨range, member, above, below⟩ := (testBit_rangeBits ranges code).mp held
  clear held
  induction ranges with
  | nil => contradiction
  | cons first rest restIH =>
      obtain ⟨before, risingRest⟩ := List.pairwise_cons.mp rising
      obtain rfl | later := List.mem_cons.mp member
      · exact inRanges_cons.mpr ⟨above, .inl below⟩
      · exact inRanges_cons.mpr
          ⟨(before range later).trans above, .inr (restIH risingRest later)⟩

end Ranges

namespace CaseRun

variable {run : CaseRun} {code : Nat}

theorem covers_iff :
    run.covers code = true ↔
      (run.first ≤ code ∧ code ≤ run.last) ∧ (code - run.first) % run.stride = 0 := by
  simp [covers]

def codes (run : CaseRun) : List Nat :=
  List.range' run.first ((run.last - run.first) / run.stride + 1) run.stride

def images (run : CaseRun) : List Nat :=
  run.codes.map fun (code : Nat) => (code + run.shift).toNat

theorem mem_codes (covered : run.covers code = true) : code ∈ run.codes := by
  obtain ⟨⟨above, below⟩, step⟩ := covers_iff.mp covered
  have whole := Nat.mod_add_div (code - run.first) run.stride
  rw [step, Nat.zero_add] at whole
  have steps : (code - run.first) / run.stride ≤ (run.last - run.first) / run.stride :=
    Nat.div_le_div_right (by omega)
  exact List.mem_range'.mpr ⟨_, Nat.lt_succ_of_le steps, by omega⟩

end CaseRun

section Shifted

variable {runs : List CaseRun} {code target : Nat}

def codesOf (runs : List CaseRun) : List Nat := runs.flatMap CaseRun.codes

def imagesOf (runs : List CaseRun) : List Nat := runs.flatMap CaseRun.images

/-- A code point either stays, covered by no run, or goes with a run to one of its images. -/
theorem shifted_cases (runs : List CaseRun) (code : Nat) :
    shifted runs code = code ∨
      ∃ run ∈ runs, run.covers code = true ∧ shifted runs code = (code + run.shift).toNat := by
  induction runs with
  | nil => exact .inl rfl
  | cons run rest restIH =>
      rw [shifted]
      split
      · next covered => exact .inr ⟨run, List.mem_cons_self, covered, rfl⟩
      · obtain same | ⟨found, member, covered, moved⟩ := restIH
        · exact .inl same
        · exact .inr ⟨found, List.mem_cons_of_mem _ member, covered, moved⟩

theorem shifted_of_not_mem (free : code ∉ codesOf runs) : shifted runs code = code := by
  obtain same | ⟨run, member, covered, _⟩ := shifted_cases runs code
  · exact same
  · exact absurd (List.mem_flatMap.mpr ⟨run, member, CaseRun.mem_codes covered⟩) free

theorem shifted_mem (runs : List CaseRun) (code : Nat) :
    shifted runs code = code ∨ code ∈ codesOf runs ∧ shifted runs code ∈ imagesOf runs := by
  obtain same | ⟨run, member, covered, moved⟩ := shifted_cases runs code
  · exact .inl same
  · have listed := CaseRun.mem_codes covered
    rw [moved]
    exact .inr ⟨List.mem_flatMap.mpr ⟨run, member, listed⟩,
      List.mem_flatMap.mpr ⟨run, member, List.mem_map_of_mem listed⟩⟩

/-- Runs that lead out of all of them move no code point twice. -/
theorem shifted_shifted (apart : bits (imagesOf runs) &&& bits (codesOf runs) = 0) (code : Nat) :
    shifted runs (shifted runs code) = shifted runs code := by
  obtain same | ⟨_, image⟩ := shifted_mem runs code
  · rw [same, same]
  · exact shifted_of_not_mem (not_mem_of_bits apart image)

/-- The code points that runs can move to `target`. -/
def sources (runs : List CaseRun) (target : Nat) : List Nat :=
  let source (run : CaseRun) := ((target : Int) - run.shift).toNat
  (runs.filter fun run => run.covers (source run)).map source

theorem eq_or_mem_sources (moved : shifted runs code = target) (positive : 0 < target) :
    code = target ∨ code ∈ sources runs target := by
  obtain same | ⟨run, member, covered, image⟩ := shifted_cases runs code
  · exact .inl (same.symm.trans moved)
  · have back : ((target : Int) - run.shift).toNat = code := by omega
    have kept : run.covers ((target : Int) - run.shift).toNat = true := back.symm ▸ covered
    exact .inr (List.mem_map.mpr ⟨run, List.mem_filter.mpr ⟨member, kept⟩, back⟩)

end Shifted

section Tables

-- The tables are longer than the default depth allows a decision to go.
set_option maxRecDepth 4000

def asciiRun (first last : Char) (shift : Int) : CaseRun := ⟨first.toNat, last.toNat, 1, shift⟩

/-- All the letters with a single lower-case form but the dotted capital I. -/
def capitalRuns : List CaseRun := asciiRun 'A' 'Z' 32 :: lowerRuns

/-- All the letters with a single upper-case form. -/
def smallRuns : List CaseRun := asciiRun 'a' 'z' (-32) :: upperRuns

theorem lowerRuns_beyond_ascii : ∀ run ∈ lowerRuns, 0x80 ≤ run.first := by
  decide

theorem upperRuns_beyond_ascii : ∀ run ∈ upperRuns, 0x80 ≤ run.first := by
  decide

/-- The letters of ASCII stand before those of a table that starts beyond it. -/
theorem shifted_asciiRun {first last : Char} {shift : Int} {runs : List CaseRun}
    (ascii : last.toNat < 0x80) (beyond : ∀ run ∈ runs, 0x80 ≤ run.first) (c : Char) :
    shifted (asciiRun first last shift :: runs) c.toNat =
      if c.toNat < 0x80 then
        if first ≤ c && c ≤ last then (c.toNat + shift).toNat else c.toNat
      else shifted runs c.toNat := by
  have letter : (asciiRun first last shift).covers c.toNat =
      (decide (first ≤ c) && decide (c ≤ last)) := by
    rw [Bool.eq_iff_iff, CaseRun.covers_iff]
    simp [asciiRun, Char.le_def, UInt32.le_iff_toNat_le, Nat.mod_one]
  rw [shifted, letter]
  split
  · next covered =>
      have bounds := (CaseRun.covers_iff.mp (letter.trans covered)).1
      rw [if_pos (show c.toNat < 0x80 from Nat.lt_of_le_of_lt bounds.2 ascii), asciiRun]
  · split
    · next below =>
        obtain same | ⟨run, member, covered, _⟩ := shifted_cases runs c.toNat
        · exact same
        · have started := (CaseRun.covers_iff.mp covered).1.1
          have later := beyond run member
          omega
    · rfl

/-- No lower-case form has one of its own. -/
theorem capitalRuns_settled : bits (imagesOf capitalRuns) &&& bits (codesOf capitalRuns) = 0 := by
  decide +kernel

variable {code : Nat}

theorem casedRanges_valid :
    ∀ range ∈ casedRanges, range.2 < 0xD800 ∨ 0xDFFF < range.1 ∧ range.2 < 0x110000 := by
  decide

theorem isValidChar_of_cased (cased : inRanges casedRanges code = true) : code.isValidChar := by
  obtain ⟨range, member, above, below⟩ :=
    (testBit_rangeBits casedRanges code).mp (testBit_of_inRanges cased)
  have valid := casedRanges_valid range member
  rw [Nat.isValidChar]
  omega

theorem casedRanges_avoid_caseIgnorable :
    rangeBits casedRanges &&& rangeBits caseIgnorableRanges = 0 := by
  decide +kernel

theorem not_caseIgnorable_of_cased (cased : inRanges casedRanges code = true) :
    inRanges caseIgnorableRanges code = false := by
  rw [Bool.eq_false_iff]
  intro ignorable
  have both : (rangeBits casedRanges &&& rangeBits caseIgnorableRanges).testBit code = true := by
    rw [Nat.testBit_and, testBit_of_inRanges cased, testBit_of_inRanges ignorable]
    rfl
  rw [casedRanges_avoid_caseIgnorable, Nat.zero_testBit] at both
  contradiction

theorem casedRanges_rising : casedRanges.Pairwise fun range later => range.1 ≤ later.1 := by
  have firsts : (casedRanges.map Prod.fst).IsChain (· ≤ ·) := by decide
  exact List.pairwise_map.mp firsts.pairwise

/-- The small letters have case, all but the iota below a letter, which case passes over. -/
theorem smallCodes_cased :
    bits (codesOf smallRuns) &&& rangeBits ((0x345, 0x345) :: casedRanges) =
      bits (codesOf smallRuns) := by
  decide +kernel

theorem smallImages_cased :
    bits (imagesOf smallRuns) &&& rangeBits casedRanges = bits (imagesOf smallRuns) := by
  decide +kernel

theorem cased_shifted (letter : code ≠ 0x345) :
    shifted smallRuns code = code ∨
      inRanges casedRanges code = true ∧ inRanges casedRanges (shifted smallRuns code) = true := by
  obtain same | ⟨listed, image⟩ := shifted_mem smallRuns code
  · exact .inl same
  · have small := testBit_of_mem_bits smallCodes_cased listed
    have capital := testBit_of_mem_bits smallImages_cased image
    rw [testBit_rangeBits, List.exists_mem_cons_iff] at small
    have cased := small.resolve_left (by omega)
    rw [← testBit_rangeBits] at cased
    exact .inr ⟨(inRanges_iff_testBit casedRanges_rising).mpr cased,
      (inRanges_iff_testBit casedRanges_rising).mpr capital⟩

end Tables

end Connexive.Text
