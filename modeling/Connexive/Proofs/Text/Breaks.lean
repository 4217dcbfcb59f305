import Connexive.Proofs.Text.Capitals
import Connexive.Proofs.Text.Lines

namespace Connexive.Text

/-! How many lines a text takes. Where it does not end in a line break, its last line goes on, so a
line feed between two such texts ends the line of the first and does nothing else. Such a text is
one line only if it holds no break at all, and lower case makes none.
-/

variable {line chars rest before : List Char} {c d : Char} {text : String} {texts : List String}

theorem noBreak_iff : NoBreak chars ↔ ∀ c ∈ chars, isLineBreak c = false := by
  simp [NoBreak]

/-- A text whose last line goes on: its last character is no line break. -/
def EndsOpen (chars : List Char) : Prop :=
  ∃ last, chars.getLast? = some last ∧ isLineBreak last = false

namespace EndsOpen

theorem nonempty (openEnd : EndsOpen chars) : chars ≠ [] := by
  rintro rfl
  obtain ⟨last, isLast, _⟩ := openEnd
  cases isLast

theorem append (openEnd : EndsOpen chars) (before : List Char) : EndsOpen (before ++ chars) := by
  obtain ⟨last, isLast, stays⟩ := openEnd
  exact ⟨last, by rw [List.getLast?_append, isLast, Option.some_or], stays⟩

theorem behind_break (openEnd : EndsOpen (before ++ c :: rest)) (ends : isLineBreak c = true) :
    EndsOpen rest := by
  obtain ⟨last, isLast, stays⟩ := openEnd
  rw [List.getLast?_append, List.getLast?_cons, Option.some_or] at isLast
  cases found : rest.getLast? with
  | some other =>
      rw [found] at isLast
      exact ⟨last, found.trans isLast, stays⟩
  | none =>
      rw [found] at isLast
      cases isLast
      rw [Option.getD_none, ends] at stays
      contradiction

theorem behind_return (openEnd : EndsOpen (before ++ '\r' :: '\n' :: rest)) : EndsOpen rest := by
  have feed : isLineBreak '\n' = true := by decide
  rw [List.append_cons] at openEnd
  exact openEnd.behind_break feed

end EndsOpen

theorem linesFrom_append_feed (openEnd : EndsOpen (line.reverse ++ chars)) (rest : List Char) :
    linesFrom line (chars ++ '\n' :: rest) = linesFrom line chars ++ linesFrom [] rest := by
  fun_induction linesFrom line chars with
  | case1 line empty =>
      cases List.isEmpty_iff.mp empty
      exact absurd rfl openEnd.nonempty
  | case2 line nonempty => exact linesFrom_feed line rest
  | case3 line chars charsIH =>
      simp only [List.cons_append, linesFrom, charsIH openEnd.behind_return]
  | case4 line c chars notReturn ends charsIH =>
      have openRest := openEnd.behind_break ends
      -- The new feed does not come to stand behind a return, because no break is at the end.
      have apart : ∀ tail, c = '\r' → chars ++ '\n' :: rest ≠ '\n' :: tail := by
        rintro tail rfl same
        obtain ⟨first, others, rfl⟩ := List.exists_cons_of_ne_nil openRest.nonempty
        cases same
        exact notReturn _ rfl rfl
      rw [List.cons_append, linesFrom, if_pos ends, charsIH openRest, List.cons_append]
      exact apart
  | case5 line c chars notReturn stays charsIH =>
      rw [List.append_cons, ← List.reverse_cons] at openEnd
      rw [List.cons_append, linesFrom_cons (Bool.eq_false_iff.mpr stays), charsIH openEnd]

theorem lines_intercalate (openEnds : ∀ text ∈ texts, EndsOpen text.toList) :
    lines ("\n".intercalate texts) = texts.flatMap lines := by
  induction texts with
  | nil => rfl
  | cons text rest restIH =>
      obtain ⟨openEnd, openRest⟩ := List.forall_mem_cons.mp openEnds
      cases rest with
      | nil => simp
      | cons next rest =>
          have joined : ("\n".intercalate (text :: next :: rest)).toList =
              text.toList ++ '\n' :: ("\n".intercalate (next :: rest)).toList := by
            rw [String.intercalate_cons_cons]
            simp
          rw [lines, joined, linesFrom_append_feed openEnd, List.map_append, List.flatMap_cons,
            ← restIH openRest]
          rfl

theorem linesFrom_of_endsOpen (openEnd : EndsOpen (line.reverse ++ chars)) :
    linesFrom line chars ≠ [] ∧ ((linesFrom line chars).length = 1 → NoBreak chars) := by
  fun_induction linesFrom line chars with
  | case1 line empty =>
      cases List.isEmpty_iff.mp empty
      exact absurd rfl openEnd.nonempty
  | case2 line nonempty => exact ⟨List.cons_ne_nil _ _, fun _ => rfl⟩
  | case3 line chars charsIH => simp [(charsIH openEnd.behind_return).1]
  | case4 line c chars notReturn ends charsIH => simp [(charsIH (openEnd.behind_break ends)).1]
  | case5 line c chars notReturn stays charsIH =>
      rw [List.append_cons, ← List.reverse_cons] at openEnd
      obtain ⟨some, one⟩ := charsIH openEnd
      refine ⟨some, fun single => ?_⟩
      rw [NoBreak, List.all_cons, Bool.and_eq_true, Bool.not_eq_true']
      exact ⟨Bool.eq_false_iff.mpr stays, one single⟩

theorem lines_of_endsOpen (openEnd : EndsOpen text.toList) :
    linesFrom [] text.toList ≠ [] ∧
      ((linesFrom [] text.toList).length = 1 → NoBreak text.toList) := by
  apply linesFrom_of_endsOpen
  exact openEnd

theorem length_lines_pos (openEnd : EndsOpen text.toList) : 0 < (lines text).length := by
  rw [lines, List.length_map]
  exact List.length_pos_of_ne_nil (lines_of_endsOpen openEnd).1

theorem length_lines_eq_one_iff (openEnd : EndsOpen text.toList) :
    (lines text).length = 1 ↔ NoBreak text.toList := by
  constructor
  · intro single
    rw [lines, List.length_map] at single
    exact (lines_of_endsOpen openEnd).2 single
  · intro noBreak
    rw [lines_of_noBreak noBreak openEnd.nonempty]
    rfl

/-- Each of several texts takes a line at least, so there are as many lines as texts only if each
takes no more. -/
theorem length_lines_iff (openEnds : ∀ text ∈ texts, EndsOpen text.toList) :
    texts.length ≤ (texts.flatMap lines).length ∧
      ((texts.flatMap lines).length = texts.length ↔ ∀ text ∈ texts, NoBreak text.toList) := by
  induction texts with
  | nil => simp
  | cons text rest restIH =>
      obtain ⟨openEnd, openRest⟩ := List.forall_mem_cons.mp openEnds
      obtain ⟨enough, counted⟩ := restIH openRest
      have some := length_lines_pos openEnd
      rw [List.flatMap_cons, List.length_append, List.length_cons, List.forall_mem_cons,
        ← length_lines_eq_one_iff openEnd, ← counted]
      omega

theorem flatMap_lines_eq_iff (openEnds : ∀ text ∈ texts, EndsOpen text.toList) :
    texts.flatMap lines = texts ↔ ∀ text ∈ texts, NoBreak text.toList := by
  constructor
  · intro same
    exact (length_lines_iff openEnds).2.mp (congrArg List.length same)
  · intro noBreaks
    have single : texts.flatMap lines = texts.flatMap ([·]) :=
      List.flatMap_congr fun text member =>
        lines_of_noBreak (noBreaks text member) (openEnds text member).nonempty
    rw [single, List.flatMap_singleton']

theorem noBreak_intercalate_iff {separator : String} (between : NoBreak separator.toList) :
    NoBreak (separator.intercalate texts).toList ↔ ∀ text ∈ texts, NoBreak text.toList := by
  induction texts with
  | nil => simp [NoBreak]
  | cons text rest restIH =>
      cases rest with
      | nil => simp
      | cons next rest =>
          rw [String.intercalate_cons_cons, String.toList_append, String.toList_append,
            noBreak_append_iff, noBreak_append_iff, restIH, and_iff_left between]
          simp only [List.forall_mem_cons]

/-- No letter has a line break for its small form. -/
theorem eq_of_mem_lowerChar (ends : isLineBreak c = true) (member : c ∈ lowerChar d) : d = c := by
  by_cases dotted : d = 'İ'
  · rw [dotted, lowerChar_dotted] at member
    obtain rfl | rfl : c = 'i' ∨ c = '\u0307' := by simpa using member
    all_goals contradiction
  · rw [lowerChar_eq dotted, List.mem_singleton] at member
    have alone : sources capitalRuns c.toNat = [] ∧ 0 < c.toNat := by
      have breaks := of_decide_eq_true ends
      simp only [List.mem_cons, List.not_mem_nil, or_false] at breaks
      rcases breaks with rfl | rfl | rfl | rfl | rfl | rfl | rfl | rfl | rfl | rfl <;> decide
    obtain ⟨none, positive⟩ := alone
    obtain same | led := eq_or_mem_sources (eq_toNat_of_ofNat_eq member.symm positive) positive
    · exact Char.toNat_inj.mp same
    · rw [none] at led
      contradiction

theorem mem_of_mem_lowerFrom (ends : isLineBreak c = true) (member : c ∈ lowerFrom before chars) :
    c ∈ chars := by
  induction chars generalizing before with
  | nil => contradiction
  | cons first rest restIH =>
      by_cases sigma : first = 'Σ'
      · rw [sigma, lowerFrom_sigma] at member
        obtain rfl | later := List.mem_cons.mp member
        · rw [smallSigma] at ends
          split at ends <;> contradiction
        · exact List.mem_cons_of_mem first (restIH later)
      · rw [lowerFrom_cons sigma] at member
        obtain here | later := List.mem_append.mp member
        · exact eq_of_mem_lowerChar ends here ▸ List.mem_cons_self
        · exact List.mem_cons_of_mem first (restIH later)

theorem noBreak_lower (noBreak : NoBreak text.toList) : NoBreak (lower text).toList := by
  rw [noBreak_iff] at noBreak ⊢
  intro c member
  rw [lower, String.toList_ofList] at member
  cases ends : isLineBreak c with
  | false => rfl
  | true => exact ends ▸ noBreak c (mem_of_mem_lowerFrom ends member)

end Connexive.Text
