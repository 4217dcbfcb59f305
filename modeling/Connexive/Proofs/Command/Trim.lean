import Connexive.Proofs.Command.Cut

namespace Connexive

/-! Blanks around a line. Before the first word there is nothing that a blank could end, behind the
last one the end of the line does the same, and where a quote stays open nothing more is a word. So
a line and the line without these blanks have the same words and the same faults.
-/

variable {c : Char} {blanks chars rest run : List Char} {inQuotes : Bool}

namespace Text

theorem trim_split (s : String) :
    ∃ before after : List Char, before.all isBlank = true ∧ after.all isBlank = true ∧
      s.toList = before ++ ((trim s).toList ++ after) := by
  have ends (chars : List Char) :
      chars = dropBlanksRight chars ++ (chars.reverse.takeWhile isBlank).reverse := by
    rw [dropBlanksRight, ← List.reverse_append, List.takeWhile_append_dropWhile,
      List.reverse_reverse]
  have endBlank : ((s.toList.dropWhile isBlank).reverse.takeWhile isBlank).reverse.all isBlank =
      true := by
    rw [List.all_reverse]
    exact List.all_takeWhile
  refine ⟨s.toList.takeWhile isBlank, _, List.all_takeWhile, endBlank, ?_⟩
  rw [trim, String.toList_ofList, ← ends, List.takeWhile_append_dropWhile]

theorem isBlank_ne_quote (blank : isBlank c = true) : c ≠ '"' := by
  rintro rfl
  contradiction

theorem count_quote_of_blank (blank : blanks.all isBlank = true) : blanks.count '"' = 0 :=
  List.count_eq_zero.mpr fun member =>
    isBlank_ne_quote (List.all_eq_true.mp blank _ member) rfl

end Text

namespace Lexeme

theorem scan_blank_cons (blank : Text.isBlank c = true) (run rest : List Char) :
    scan false run (c :: rest) = endRun run ++ scan false [] rest := by
  have notQuote := Text.isBlank_ne_quote blank
  have notParen : (c = '(' || c = ')') = false := by
    cases paren : (c = '(' || c = ')' : Bool) with
    | false => rfl
    | true =>
        rw [isBlank_eq_false_of_paren paren] at blank
        contradiction
  simp only [scan, notQuote, notParen, blank, if_true, if_false, Bool.false_eq_true]

theorem scan_blanks_before (blank : blanks.all Text.isBlank = true) (rest : List Char) :
    scan false [] (blanks ++ rest) = scan false [] rest := by
  induction blanks with
  | nil => rfl
  | cons c blanks blanksIH =>
      rw [List.all_cons, Bool.and_eq_true] at blank
      rw [List.cons_append, scan_blank_cons blank.1]
      exact blanksIH blank.2

theorem scan_blank_behind (blank : Text.isBlank c = true) (inQuotes : Bool)
    (run chars : List Char) : scan inQuotes run (chars ++ [c]) = scan inQuotes run chars := by
  induction chars generalizing inQuotes run with
  | nil =>
      cases inQuotes with
      | true => simp [scan, Text.isBlank_ne_quote blank]
      | false =>
          rw [List.nil_append, scan_blank_cons blank]
          exact List.append_nil _
  | cons first chars charsIH => simp only [List.cons_append, scan, charsIH]

theorem scan_blanks_behind (blank : blanks.all Text.isBlank = true) (chars : List Char) :
    scan false [] (chars ++ blanks) = scan false [] chars := by
  induction blanks generalizing chars with
  | nil => rw [List.append_nil]
  | cons c blanks blanksIH =>
      rw [List.all_cons, Bool.and_eq_true] at blank
      rw [List.append_cons, blanksIH blank.2, scan_blank_behind blank.1]

end Lexeme

theorem tokenize_trim (line : String) : tokenize (Text.trim line) = tokenize line := by
  obtain ⟨before, after, beforeBlank, afterBlank, split⟩ := Text.trim_split line
  have sameQuotes : (Text.trim line).toList.count '"' = line.toList.count '"' := by
    rw [split, List.count_append, List.count_append, Text.count_quote_of_blank beforeBlank,
      Text.count_quote_of_blank afterBlank, Nat.zero_add, Nat.add_zero]
  have sameLexemes : Lexeme.scan false [] line.toList =
      Lexeme.scan false [] (Text.trim line).toList := by
    rw [split, Lexeme.scan_blanks_before beforeBlank, Lexeme.scan_blanks_behind afterBlank]
  rw [tokenize, tokenize, sameQuotes, sameLexemes]

end Connexive
