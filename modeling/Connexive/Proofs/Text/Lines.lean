import Connexive.Text.Lines

namespace Connexive.Text

/-! Texts without a line break in them are the lines of the text that joins them by line feeds. -/

variable {line chars rest : List Char} {c : Char} {text : String}

def NoBreak (chars : List Char) : Prop :=
  chars.all (!isLineBreak ·) = true

instance (chars : List Char) : Decidable (NoBreak chars) :=
  inferInstanceAs (Decidable (chars.all (!isLineBreak ·) = true))

theorem noBreak_append_iff : NoBreak (chars ++ rest) ↔ NoBreak chars ∧ NoBreak rest := by
  rw [NoBreak, List.all_append, Bool.and_eq_true]
  rfl

theorem linesFrom_cons (noBreak : isLineBreak c = false) (line rest : List Char) :
    linesFrom line (c :: rest) = linesFrom (c :: line) rest := by
  have notReturn : c ≠ '\r' := by
    rintro rfl
    contradiction
  simp [linesFrom, noBreak, notReturn]

theorem linesFrom_append (noBreak : NoBreak chars) (line rest : List Char) :
    linesFrom line (chars ++ rest) = linesFrom (chars.reverse ++ line) rest := by
  induction chars generalizing line with
  | nil => rfl
  | cons first chars charsIH =>
      rw [NoBreak, List.all_cons, Bool.and_eq_true, Bool.not_eq_true'] at noBreak
      rw [List.cons_append, linesFrom_cons noBreak.1, charsIH noBreak.2, List.reverse_cons,
        List.append_assoc, List.singleton_append]

theorem linesFrom_feed (line rest : List Char) :
    linesFrom line ('\n' :: rest) = line.reverse :: linesFrom [] rest := by
  have feed : isLineBreak '\n' = true := by decide
  simp [linesFrom, feed]

theorem lines_append_feed (noBreak : NoBreak text.toList) (rest : String) :
    lines (text ++ "\n" ++ rest) = text :: lines rest := by
  have joined : (text ++ "\n" ++ rest).toList = text.toList ++ '\n' :: rest.toList := by simp
  rw [lines, joined, linesFrom_append noBreak, List.append_nil, linesFrom_feed,
    List.reverse_reverse, List.map_cons, String.ofList_toList, lines]

theorem lines_of_noBreak (noBreak : NoBreak text.toList) (nonempty : text.toList ≠ []) :
    lines text = [text] := by
  have last : linesFrom text.toList.reverse [] = [text.toList] := by
    simp [linesFrom, nonempty]
  have whole := linesFrom_append noBreak [] []
  rw [List.append_nil, List.append_nil, last] at whole
  rw [lines, whole, List.map_singleton, String.ofList_toList]

end Connexive.Text
