import Connexive.Command.Word

namespace Connexive

/-! How a line is cut into words. A piece of text that closes its quotes and ends at a seam is cut
alike wherever it stands outside quotes, so the words of a line come piece by piece. In the other
direction, no word that comes out of a line is blank or holds a quote.
-/

namespace Lexeme

variable {run text : List Char} {c : Char}

theorem scan_open (run rest : List Char) :
    scan false run ('"' :: rest) = endRun run ++ scan true [] rest := rfl

theorem scan_close (run rest : List Char) :
    scan true run ('"' :: rest) = .quoted run.reverse :: scan false [] rest := rfl

theorem scan_quoted (noQuote : '"' ∉ text) (run rest : List Char) :
    scan true run (text ++ '"' :: rest) =
      .quoted (run.reverse ++ text) :: scan false [] rest := by
  induction text generalizing run with
  | nil => rw [List.append_nil, List.nil_append, scan_close]
  | cons first text textIH =>
      have different : first ≠ '"' := fun same => noQuote (same ▸ List.mem_cons_self)
      have later : '"' ∉ text := fun member => noQuote (List.mem_cons_of_mem first member)
      rw [List.cons_append, scan, if_pos rfl, if_neg different, textIH later,
        List.reverse_cons, List.append_assoc, List.singleton_append]

theorem scan_paren_cons (paren : (c = '(' || c = ')') = true) (run rest : List Char) :
    scan false run (c :: rest) = endRun run ++ bare [c] :: scan false [] rest := by
  have different : c ≠ '"' := by
    rintro rfl
    contradiction
  simp only [scan, different, paren, if_true, if_false, Bool.false_eq_true]

/-- What ends a run of bare characters: a quote, a parenthesis or a blank. -/
def IsBare (c : Char) : Prop :=
  c ≠ '"' ∧ c ≠ '(' ∧ c ≠ ')' ∧ Text.isBlank c = false

instance : DecidablePred IsBare := fun _ =>
  inferInstanceAs (Decidable (_ ∧ _ ∧ _ ∧ _))

theorem isBare_of_all (all : text.all (IsBare ·) = true) : ∀ c ∈ text, IsBare c :=
  fun c member => of_decide_eq_true (List.all_eq_true.mp all c member)

theorem scan_bare_cons (bare : IsBare c) (run rest : List Char) :
    scan false run (c :: rest) = scan false (c :: run) rest := by
  simp [scan, bare.1, bare.2.1, bare.2.2.1, bare.2.2.2]

theorem scan_bare (bare : ∀ c ∈ text, IsBare c) (run rest : List Char) :
    scan false run (text ++ rest) = scan false (text.reverse ++ run) rest := by
  induction text generalizing run with
  | nil => rfl
  | cons first text textIH =>
      rw [List.cons_append, scan_bare_cons (bare first List.mem_cons_self),
        textIH (fun c member => bare c (List.mem_cons_of_mem first member)), List.reverse_cons,
        List.append_assoc, List.singleton_append]

theorem endRun_reverse (nonempty : text ≠ []) : endRun text.reverse = [.bare text] := by
  have begun : text.reverse.isEmpty = false := by
    simpa using nonempty
  rw [endRun, begun, List.reverse_reverse]
  rfl

theorem words_cons_iff {lexeme : Lexeme} {rest : List Lexeme} {cut : List String} :
    words (lexeme :: rest) = .ok cut ↔
      ∃ text others, lexeme.word = .ok text ∧ words rest = .ok others ∧ cut = text :: others := by
  rw [words]
  cases lexeme.word with
  | error fault => simp
  | ok text =>
      cases words rest with
      | error fault => simp [Except.map]
      | ok others => simp [Except.map, eq_comm]

theorem words_append_bind (before after : List Lexeme) :
    words (before ++ after) = do
      let first ← words before
      let second ← words after
      return first ++ second := by
  induction before with
  | nil =>
      rw [List.nil_append]
      cases words after <;> rfl
  | cons lexeme before beforeIH =>
      rw [List.cons_append, words, words, beforeIH]
      cases lexeme.word with
      | error fault => rfl
      | ok text => cases words before <;> cases words after <;> rfl

theorem words_append_eq {before : List Lexeme} {first : List String}
    (cutFirst : words before = .ok first) (after : List Lexeme) :
    words (before ++ after) = (words after).map (first ++ ·) := by
  rw [words_append_bind, cutFirst]
  cases words after <;> rfl

theorem words_append {before after : List Lexeme} {first second : List String}
    (cutFirst : words before = .ok first) (cutSecond : words after = .ok second) :
    words (before ++ after) = .ok (first ++ second) := by
  rw [words_append_eq cutFirst, cutSecond]
  rfl

end Lexeme

/-- A piece of text that is cut into these words, whatever follows it. -/
structure CutInto (text : List Char) (words : List String) : Prop where
  evenQuotes : text.count '"' % 2 = 0
  scanned : ∃ lexemes, Lexeme.words lexemes = .ok words ∧
    ∀ rest, Lexeme.scan false [] (text ++ rest) = lexemes ++ Lexeme.scan false [] rest

namespace CutInto

variable {text before after : List Char} {first second words : List String}

theorem append (cutFirst : CutInto before first) (cutSecond : CutInto after second) :
    CutInto (before ++ after) (first ++ second) := by
  obtain ⟨lexemes, worded, scans⟩ := cutFirst.scanned
  obtain ⟨more, moreWorded, moreScans⟩ := cutSecond.scanned
  refine ⟨?_, lexemes ++ more, Lexeme.words_append worded moreWorded, fun rest => ?_⟩
  · have even := cutFirst.evenQuotes
    have moreEven := cutSecond.evenQuotes
    rw [List.count_append]
    omega
  · rw [List.append_assoc, scans, moreScans, List.append_assoc]

theorem opening : CutInto ['('] ["("] :=
  ⟨rfl, [.bare ['(']], rfl, fun _ => rfl⟩

theorem closing : CutInto [')'] [")"] :=
  ⟨rfl, [.bare [')']], rfl, fun _ => rfl⟩

theorem space : CutInto [' '] [] :=
  ⟨rfl, [], rfl, fun _ => rfl⟩

theorem bare {word : String} (nonempty : word.toList ≠ [])
    (bare : ∀ c ∈ word.toList, Lexeme.IsBare c) : CutInto (word.toList ++ [' ']) [word] := by
  have noQuote : word.toList.count '"' = 0 :=
    List.count_eq_zero.mpr fun member => (bare _ member).1 rfl
  refine ⟨by simp [noQuote], [.bare word.toList], by simp [Lexeme.words, Lexeme.word]; rfl,
    fun rest => ?_⟩
  -- The blank behind the word keeps what follows from joining it.
  rw [List.append_assoc, Lexeme.scan_bare bare, List.append_nil]
  have seam : Lexeme.scan false word.toList.reverse ([' '] ++ rest) =
      Lexeme.endRun word.toList.reverse ++ Lexeme.scan false [] rest := rfl
  rw [seam, Lexeme.endRun_reverse nonempty]

end CutInto

/-- A text that may stand between quotes. -/
structure Quotable (text : String) : Prop where
  notBlank : Text.allBlank text = false
  noQuote : '"' ∉ text.toList

theorem CutInto.quoted {text : String} (quotable : Quotable text) :
    CutInto ('"' :: (text.toList ++ ['"'])) [text] := by
  have noQuotes := List.count_eq_zero.mpr quotable.noQuote
  have notBlank : text.toList.all Text.isBlank = false := quotable.notBlank
  refine ⟨by simp [noQuotes], [.quoted text.toList],
    by simp [Lexeme.words, Lexeme.word, notBlank]; rfl, fun rest => ?_⟩
  rw [List.cons_append, Lexeme.scan_open, List.append_assoc, List.singleton_append,
    Lexeme.scan_quoted quotable.noQuote]
  rfl

/-- Behind a piece the rest of a line is cut as it would be alone, faults included. -/
theorem CutInto.tokenize_append {line rest : String} {text : List Char} {words : List String}
    (cut : CutInto text words) (joined : line.toList = text ++ rest.toList) :
    tokenize line = (tokenize rest).map (words ++ ·) := by
  obtain ⟨lexemes, worded, scans⟩ := cut.scanned
  have sameParity : line.toList.count '"' % 2 = rest.toList.count '"' % 2 := by
    have even := cut.evenQuotes
    rw [joined, List.count_append]
    omega
  unfold tokenize
  rw [sameParity]
  split
  · rfl
  · rw [joined, scans, Lexeme.words_append_eq worded]

theorem CutInto.tokenize_eq {line : String} {words : List String}
    (cut : CutInto line.toList words) : tokenize line = .ok words := by
  have whole : tokenize line = (tokenize "").map (words ++ ·) :=
    cut.tokenize_append (List.append_nil _).symm
  have nothing : tokenize "" = .ok [] := rfl
  rw [whole, nothing, Except.map, List.append_nil]

theorem tokenize_word {word : String} (nonempty : word.toList ≠ [])
    (bare : ∀ c ∈ word.toList, Lexeme.IsBare c) : tokenize word = .ok [word] := by
  have noQuote : word.toList.count '"' = 0 :=
    List.count_eq_zero.mpr fun member => (bare _ member).1 rfl
  have scanned : Lexeme.scan false [] word.toList = [.bare word.toList] := by
    have ended : Lexeme.scan false word.toList.reverse [] = Lexeme.endRun word.toList.reverse := rfl
    have scans := Lexeme.scan_bare bare [] []
    simpa [ended, Lexeme.endRun_reverse nonempty] using scans
  rw [tokenize, if_neg (by omega), scanned]
  simp [Lexeme.words, Lexeme.word]
  rfl

/-- A bare word may also end its line, with no blank behind it. -/
theorem CutInto.tokenize_bare {line word : String} {text : List Char} {words : List String}
    (cut : CutInto text words) (nonempty : word.toList ≠ [])
    (bare : ∀ c ∈ word.toList, Lexeme.IsBare c) (joined : line.toList = text ++ word.toList) :
    tokenize line = .ok (words ++ [word]) := by
  rw [cut.tokenize_append joined, tokenize_word nonempty bare]
  rfl

namespace Lexeme

/-- What the characters of a lexeme are like, wherever it was cut. -/
def WellCut : Lexeme → Prop
  | bare text => text ≠ [] ∧ ∀ c ∈ text, c ≠ '"' ∧ Text.isBlank c = false
  | quoted text => '"' ∉ text

/-- The characters that a run may hold: no quote, and outside quotes no blank either. -/
def Clean (inQuotes : Bool) (run : List Char) : Prop :=
  ∀ c ∈ run, c ≠ '"' ∧ (inQuotes = false → Text.isBlank c = false)

theorem clean_nil (inQuotes : Bool) : Clean inQuotes [] := by
  intro c member
  contradiction

theorem Clean.cons {inQuotes : Bool} {run : List Char} {c : Char} (clean : Clean inQuotes run)
    (noQuote : c ≠ '"') (notBlank : inQuotes = false → Text.isBlank c = false) :
    Clean inQuotes (c :: run) :=
  List.forall_mem_cons.mpr ⟨⟨noQuote, notBlank⟩, clean⟩

theorem Clean.endRun_wellCut {inQuotes : Bool} {run : List Char} (clean : Clean inQuotes run)
    (outside : inQuotes = false) : ∀ lexeme ∈ endRun run, lexeme.WellCut := by
  intro lexeme member
  cases run with
  | nil => contradiction
  | cons last run =>
      cases List.mem_singleton.mp member
      refine ⟨by simp, fun c inRun => ?_⟩
      have kept := clean c (List.mem_reverse.mp inRun)
      exact ⟨kept.1, kept.2 outside⟩

theorem isBlank_eq_false_of_paren {c : Char} (paren : (c = '(' || c = ')') = true) :
    Text.isBlank c = false := by
  rw [Bool.or_eq_true, decide_eq_true_eq, decide_eq_true_eq] at paren
  rcases paren with rfl | rfl <;> rfl

theorem scan_wellCut {inQuotes : Bool} {run chars : List Char} (clean : Clean inQuotes run) :
    ∀ lexeme ∈ scan inQuotes run chars, lexeme.WellCut := by
  fun_induction scan inQuotes run chars with
  | case1 run => simp
  | case2 inQuotes run outside =>
      exact clean.endRun_wellCut (Bool.eq_false_iff.mpr outside)
  | case3 run rest restIH =>
      refine List.forall_mem_cons.mpr ⟨fun inRun => ?_, restIH (clean_nil false)⟩
      exact (clean _ (List.mem_reverse.mp inRun)).1 rfl
  | case4 run c rest noQuote restIH =>
      exact restIH (clean.cons noQuote fun outside => by contradiction)
  | case5 inQuotes run rest outside restIH =>
      exact List.forall_mem_append.mpr
        ⟨clean.endRun_wellCut (Bool.eq_false_iff.mpr outside), restIH (clean_nil true)⟩
  | case6 inQuotes run c rest outside noQuote paren restIH =>
      refine List.forall_mem_append.mpr ⟨clean.endRun_wellCut (Bool.eq_false_iff.mpr outside),
        List.forall_mem_cons.mpr ⟨⟨by simp, ?_⟩, restIH (clean_nil false)⟩⟩
      intro other member
      cases List.mem_singleton.mp member
      exact ⟨noQuote, isBlank_eq_false_of_paren paren⟩
  | case7 inQuotes run c rest outside noQuote _ _ restIH =>
      exact List.forall_mem_append.mpr
        ⟨clean.endRun_wellCut (Bool.eq_false_iff.mpr outside), restIH (clean_nil false)⟩
  | case8 inQuotes run c rest outside noQuote _ notBlank restIH =>
      have kept : Clean false run := by
        rw [← Bool.eq_false_iff.mpr outside]
        exact clean
      exact restIH (kept.cons noQuote fun _ => Bool.eq_false_iff.mpr notBlank)

theorem WellCut.quotable {lexeme : Lexeme} {text : String} (wellCut : lexeme.WellCut)
    (word : lexeme.word = .ok text) : Quotable text := by
  cases lexeme with
  | bare chars =>
      obtain ⟨nonempty, clean⟩ := wellCut
      cases word
      obtain ⟨first, rest, rfl⟩ := List.exists_cons_of_ne_nil nonempty
      have firstClean := clean first List.mem_cons_self
      refine ⟨?_, fun member => ?_⟩
      · simp [Text.allBlank, firstClean.2]
      · rw [String.toList_ofList] at member
        exact (clean _ member).1 rfl
  | quoted chars =>
      rw [Lexeme.word] at word
      split at word
      · contradiction
      · next notBlank =>
          cases word
          have noQuote : '"' ∉ chars := wellCut
          exact ⟨by simpa [Text.allBlank] using notBlank, by simpa using noQuote⟩

theorem words_quotable {lexemes : List Lexeme} {cut : List String}
    (wellCut : ∀ lexeme ∈ lexemes, lexeme.WellCut) (worded : words lexemes = .ok cut) :
    ∀ text ∈ cut, Quotable text := by
  induction lexemes generalizing cut with
  | nil =>
      cases worded
      simp
  | cons lexeme rest restIH =>
      obtain ⟨text, others, word, cutRest, rfl⟩ := words_cons_iff.mp worded
      obtain ⟨first, later⟩ := List.forall_mem_cons.mp wellCut
      exact List.forall_mem_cons.mpr ⟨first.quotable word, restIH later cutRest⟩

end Lexeme

/-- Every word of a line could stand between quotes itself. -/
theorem quotable_of_tokenize {line : String} {words : List String}
    (cut : tokenize line = .ok words) : ∀ word ∈ words, Quotable word := by
  unfold tokenize at cut
  split at cut
  · contradiction
  · exact Lexeme.words_quotable (Lexeme.scan_wellCut (Lexeme.clean_nil false)) cut

end Connexive
