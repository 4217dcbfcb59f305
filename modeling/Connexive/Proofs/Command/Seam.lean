import Connexive.Proofs.Command.Trim
import Connexive.Proofs.Formula.Canonical

namespace Connexive

/-! Lines that are joined. Where a text closes its quotes, all that the scan carries into what
follows is the run that has not ended yet. A blank ends it, so two lines with a blank between them
are cut as each of them alone; a bare word goes on with it. Quotes need no blank: a quoted phrase is
a piece, whatever it touches.
-/

variable {chars spaces run : List Char} {inQuotes : Bool} {first second blanks : String}

namespace Lexeme

/-- Behind a text that closes its quotes, the scan has cut some lexemes and is outside quotes. -/
theorem scan_closed (closed : (inQuotes.toNat + chars.count '"') % 2 = 0) (run : List Char) :
    ∃ lexemes pending, ∀ rest,
      scan inQuotes run (chars ++ rest) = lexemes ++ scan false pending rest := by
  induction chars generalizing inQuotes run with
  | nil =>
      cases inQuotes with
      | true => contradiction
      | false => exact ⟨[], run, fun _ => rfl⟩
  | cons c chars charsIH =>
      by_cases quote : c = '"'
      · subst quote
        rw [List.count_cons_self] at closed
        -- What follows the quote is closed in itself if this quote closes, and not if it opens.
        cases inQuotes with
        | true =>
            have outside : (false.toNat + chars.count '"') % 2 = 0 := by
              simp only [Bool.toNat_true, Bool.toNat_false] at closed ⊢
              omega
            obtain ⟨lexemes, pending, scans⟩ := charsIH outside []
            refine ⟨.quoted run.reverse :: lexemes, pending, fun rest => ?_⟩
            rw [List.cons_append, scan_close, scans, List.cons_append]
        | false =>
            have inside : (true.toNat + chars.count '"') % 2 = 0 := by
              simp only [Bool.toNat_true, Bool.toNat_false] at closed ⊢
              omega
            obtain ⟨lexemes, pending, scans⟩ := charsIH inside []
            refine ⟨endRun run ++ lexemes, pending, fun rest => ?_⟩
            rw [List.cons_append, scan_open, scans, List.append_assoc]
      · rw [List.count_cons_of_ne quote] at closed
        cases inQuotes with
        | true =>
            obtain ⟨lexemes, pending, scans⟩ := charsIH closed (c :: run)
            refine ⟨lexemes, pending, fun rest => ?_⟩
            rw [List.cons_append, scan, if_pos rfl, if_neg quote, scans]
        | false =>
            cases paren : (c = '(' || c = ')' : Bool) with
            | true =>
                obtain ⟨lexemes, pending, scans⟩ := charsIH closed []
                refine ⟨endRun run ++ .bare [c] :: lexemes, pending, fun rest => ?_⟩
                rw [List.cons_append, scan_paren_cons paren, scans, List.append_assoc,
                  List.cons_append]
            | false =>
                cases blank : Text.isBlank c with
                | true =>
                    obtain ⟨lexemes, pending, scans⟩ := charsIH closed []
                    refine ⟨endRun run ++ lexemes, pending, fun rest => ?_⟩
                    rw [List.cons_append, scan_blank_cons blank, scans, List.append_assoc]
                | false =>
                    obtain ⟨lexemes, pending, scans⟩ := charsIH closed (c :: run)
                    refine ⟨lexemes, pending, fun rest => ?_⟩
                    simp only [Bool.or_eq_false_iff, decide_eq_false_iff_not] at paren
                    have bare : IsBare c := ⟨quote, paren.1, paren.2, blank⟩
                    rw [List.cons_append, scan_bare_cons bare, scans]

theorem scan_nil (run : List Char) : scan false run [] = endRun run := rfl

/-- A line is cut into some lexemes and the run that it ends in, with which the next may go on. -/
theorem scan_line (even : chars.count '"' % 2 = 0) :
    ∃ lexemes pending, scan false [] chars = lexemes ++ endRun pending ∧
      ∀ rest, scan false [] (chars ++ rest) = lexemes ++ scan false pending rest := by
  have closed : (false.toNat + chars.count '"') % 2 = 0 := by
    rwa [Bool.toNat_false, Nat.zero_add]
  obtain ⟨lexemes, pending, scans⟩ := scan_closed closed []
  refine ⟨lexemes, pending, ?_, scans⟩
  rw [← scan_nil, ← scans, List.append_nil]

theorem scan_between_blanks (even : chars.count '"' % 2 = 0) (nonempty : spaces ≠ [])
    (blank : spaces.all Text.isBlank = true) (rest : List Char) :
    scan false [] (chars ++ (spaces ++ rest)) = scan false [] chars ++ scan false [] rest := by
  obtain ⟨lexemes, pending, alone, scans⟩ := scan_line even
  obtain ⟨c, spaces, rfl⟩ := List.exists_cons_of_ne_nil nonempty
  rw [List.all_cons, Bool.and_eq_true] at blank
  rw [scans, alone, List.cons_append, scan_blank_cons blank.1, scan_blanks_before blank.2,
    List.append_assoc]

/-- A bare word behind a line goes on with the run that the line ends in, if it ends in one. -/
theorem scan_bare_behind {last : List Char} (even : chars.count '"' % 2 = 0) (nonempty : last ≠ [])
    (isBare : ∀ c ∈ last, IsBare c) :
    scan false [] (chars ++ last) = scan false [] chars ++ [bare last] ∨
      ∃ before run, scan false [] chars = before ++ [bare run] ∧
        scan false [] (chars ++ last) = before ++ [bare (run ++ last)] := by
  obtain ⟨lexemes, pending, alone, scans⟩ := scan_line even
  have together : scan false [] (chars ++ last) =
      lexemes ++ endRun (pending.reverse ++ last).reverse := by
    have goesOn := scan_bare isBare pending []
    rw [List.append_nil, scan_nil] at goesOn
    rw [scans, goesOn, List.reverse_append, List.reverse_reverse]
  rw [endRun_reverse (List.append_ne_nil_of_right_ne_nil _ nonempty)] at together
  cases pending with
  | nil =>
      left
      rw [together, alone, endRun, List.isEmpty_nil, if_pos rfl, List.append_nil]
      rfl
  | cons c pending => exact .inr ⟨lexemes, (c :: pending).reverse, alone, together⟩

theorem words_concat_bare (before : List Lexeme) (text : List Char) :
    words (before ++ [bare text]) = (words before).map (· ++ [String.ofList text]) := by
  rw [words_append_bind]
  cases words before <;> rfl

end Lexeme

variable {text word : String} {words : List String}

theorem tokenize_of_even {line : String} (even : line.toList.count '"' % 2 = 0) :
    tokenize line = Lexeme.words (Lexeme.scan false [] line.toList) := by
  rw [tokenize, if_neg (by omega)]

theorem even_of_tokenize (cut : tokenize text = .ok words) : text.toList.count '"' % 2 = 0 := by
  unfold tokenize at cut
  split at cut
  · contradiction
  · omega

theorem tokenize_between_blanks (firstEven : first.toList.count '"' % 2 = 0)
    (secondEven : second.toList.count '"' % 2 = 0) (nonempty : blanks ≠ "")
    (blank : Text.allBlank blanks = true) :
    tokenize (first ++ blanks ++ second) = do
      let before ← tokenize first
      let after ← tokenize second
      return before ++ after := by
  have noQuote : blanks.toList.count '"' = 0 := Text.count_quote_of_blank blank
  have characters : (first ++ blanks ++ second).toList =
      first.toList ++ (blanks.toList ++ second.toList) := by
    simp
  have even : (first ++ blanks ++ second).toList.count '"' % 2 = 0 := by
    rw [characters, List.count_append, List.count_append]
    omega
  have present : blanks.toList ≠ [] := by
    simpa using nonempty
  rw [tokenize_of_even even, characters, Lexeme.scan_between_blanks firstEven present blank,
    Lexeme.words_append_bind, ← tokenize_of_even firstEven, ← tokenize_of_even secondEven]

theorem tokenize_append_bare (cut : tokenize text = .ok words) (nonempty : word.toList ≠ [])
    (bare : ∀ c ∈ word.toList, Lexeme.IsBare c) :
    tokenize (text ++ word) = .ok (words ++ [word]) ∨
      ∃ before last, words = before ++ [last] ∧
        tokenize (text ++ word) = .ok (before ++ [last ++ word]) := by
  have even := even_of_tokenize cut
  have noQuote : word.toList.count '"' = 0 :=
    List.count_eq_zero.mpr fun member => (bare _ member).1 rfl
  have stillEven : (text ++ word).toList.count '"' % 2 = 0 := by
    rw [String.toList_append, List.count_append]
    omega
  rw [tokenize_of_even even] at cut
  rw [tokenize_of_even stillEven, String.toList_append]
  rcases Lexeme.scan_bare_behind even nonempty bare with apart | ⟨before, run, ends, together⟩
  · rw [apart, Lexeme.words_concat_bare, cut, String.ofList_toList]
    exact .inl rfl
  · rw [ends, Lexeme.words_concat_bare] at cut
    rw [together, Lexeme.words_concat_bare]
    cases worded : Lexeme.words before with
    | error fault =>
        rw [worded] at cut
        contradiction
    | ok others =>
        rw [worded] at cut
        cases cut
        have joined : String.ofList (run ++ word.toList) = String.ofList run ++ word := by
          rw [String.ofList_append, String.ofList_toList]
        exact .inr ⟨others, String.ofList run, rfl, by rw [joined]; rfl⟩

theorem CutInto.of_blanks (blank : spaces.all Text.isBlank = true) : CutInto spaces [] :=
  ⟨by rw [Text.count_quote_of_blank blank], [], rfl, Lexeme.scan_blanks_before blank⟩

/-- Each phrase in quotes, behind the text that is paired with it. -/
def joinQuoted (phrases : List (String × String)) : String :=
  String.join (phrases.map fun phrase => phrase.1 ++ renderName phrase.2)

theorem joinQuoted_cut {phrases : List (String × String)}
    (apart : ∀ phrase ∈ phrases, Text.allBlank phrase.1 = true ∧ Quotable phrase.2) :
    CutInto (joinQuoted phrases).toList (phrases.map Prod.snd) := by
  induction phrases with
  | nil => exact ⟨rfl, [], rfl, fun _ => rfl⟩
  | cons phrase rest restIH =>
      obtain ⟨⟨blank, quotable⟩, later⟩ := List.forall_mem_cons.mp apart
      have cut := ((CutInto.of_blanks blank).append (renderName_cut quotable)).append (restIH later)
      simpa [joinQuoted] using cut

/-- Lines that close their quotes are cut alike alone and behind one another, with any blanks
between them, and the first fault in them is the fault of the whole. Phrases in quotes are cut into
these phrases, with blanks or nothing between them. -/
theorem tokenize_joined :
    (∀ first second blanks : String, first.toList.count '"' % 2 = 0 →
      second.toList.count '"' % 2 = 0 → blanks ≠ "" → Text.allBlank blanks = true →
      tokenize (first ++ blanks ++ second) = do
        let before ← tokenize first
        let after ← tokenize second
        return before ++ after) ∧
    ∀ phrases : List (String × String),
      (∀ phrase ∈ phrases, Text.allBlank phrase.1 = true ∧ Quotable phrase.2) →
      tokenize (joinQuoted phrases) = .ok (phrases.map Prod.snd) :=
  ⟨fun _ _ _ => tokenize_between_blanks, fun _ apart => (joinQuoted_cut apart).tokenize_eq⟩

/-- Runs and quotes meet at the seam, the fault of the first line hides that of the second, and two
phrases stand without a blank between them. -/
theorem tokenize_joined_at_seams :
    tokenize ("a \"b c\"" ++ "\t\n" ++ "(d") = .ok ["a", "b c", "(", "d"] ∧
      tokenize ("a \"\"" ++ " " ++ "b") = .error .emptyQuotes ∧
      joinQuoted [("", "is\nit?"), ("", "("), (" ", "b")] = "\"is\nit?\"\"(\" \"b\"" ∧
      tokenize "\"is\nit?\"\"(\" \"b\"" = .ok ["is\nit?", "(", "b"] := by
  obtain ⟨joined, phrases⟩ := tokenize_joined
  refine ⟨?_, ?_, by decide, ?_⟩
  · exact joined _ _ _ (by decide) (by decide) (by decide) (by decide)
  · exact joined _ _ _ (by decide) (by decide) (by decide) (by decide)
  · refine phrases [("", "is\nit?"), ("", "("), (" ", "b")] fun phrase member => ?_
    simp only [List.mem_cons, List.not_mem_nil, or_false] at member
    rcases member with rfl | rfl | rfl <;> exact ⟨by decide, by decide, by decide⟩

end Connexive
