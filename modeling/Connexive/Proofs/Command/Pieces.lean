import Connexive.Proofs.Command.Trim

namespace Connexive

/-! The pieces of a line between its double quotes. They are numbered from zero, so the odd ones
stand inside quotes. The scan goes through the line character by character; it finds in each piece
what the piece holds alone, and no run goes on across a quote.
-/

variable {c : Char} {chars rest text : List Char} {place : Nat}

/-- A part of a line between two of its quotes or at one of its ends, and how many quotes stand
before it. -/
structure Piece where
  text : List Char
  place : Nat

/-- The pieces of a text behind `place` quotes. -/
def piecesFrom (place : Nat) (chars : List Char) : List Piece :=
  ((chars.splitOn '"').zipIdx place).map fun part => ⟨part.1, part.2⟩

def pieces (line : String) : List Piece :=
  piecesFrom 0 line.toList

/-- What a bare run of a piece may hold. -/
def inRun (c : Char) : Bool :=
  !Text.isBlank c && !(c = '(' || c = ')')

/-- The parentheses of a piece outside quotes and its longest runs of what is neither blank nor a
parenthesis. -/
def bareRuns : List Char → List (List Char)
  | [] => []
  | c :: rest =>
    if Text.isBlank c then bareRuns rest
    else if c = '(' || c = ')' then [c] :: bareRuns rest
    else (c :: rest.takeWhile inRun) :: bareRuns (rest.dropWhile inRun)
termination_by chars => chars.length
decreasing_by
  all_goals simp only [List.length_cons, Nat.lt_succ_iff]
  · exact Nat.le_refl _
  · exact Nat.le_refl _
  · exact (List.dropWhile_sublist _).length_le

namespace Piece

def inQuotes (piece : Piece) : Bool :=
  piece.place % 2 = 1

def words (piece : Piece) : List String :=
  if piece.inQuotes then [String.ofList piece.text] else (bareRuns piece.text).map String.ofList

def isEmptyQuotes (piece : Piece) : Bool :=
  piece.inQuotes && piece.text.all Text.isBlank

/-- What is kept of a piece: every character inside quotes, outside them all but the blanks. -/
def kept (piece : Piece) : List Char :=
  if piece.inQuotes then piece.text else piece.text.filter (!Text.isBlank ·)

end Piece

/-- A line is cut at its first quote and the rest of it in the same way. -/
theorem cut_induction {motive : List Char → Prop}
    (last : ∀ text, '"' ∉ text → motive text)
    (before : ∀ text rest, '"' ∉ text → motive rest → motive (text ++ '"' :: rest))
    (chars : List Char) : motive chars := by
  by_cases quote : '"' ∈ chars
  · obtain ⟨text, rest, parts, noQuote⟩ := List.eq_append_cons_of_mem quote
    have shorter : rest.length < chars.length := by
      rw [parts, List.length_append, List.length_cons]
      omega
    rw [parts]
    exact before text rest noQuote (cut_induction last before rest)
  · exact last chars quote
termination_by chars.length

theorem piecesFrom_last (noQuote : '"' ∉ text) (place : Nat) :
    piecesFrom place text = [⟨text, place⟩] := by
  rw [piecesFrom, List.splitOn_eq_singleton noQuote]
  rfl

theorem piecesFrom_before (noQuote : '"' ∉ text) (place : Nat) (rest : List Char) :
    piecesFrom place (text ++ '"' :: rest) = ⟨text, place⟩ :: piecesFrom (place + 1) rest := by
  rw [piecesFrom, List.splitOn_append_cons_self_of_not_mem noQuote]
  rfl

theorem length_piecesFrom (place : Nat) (chars : List Char) :
    (piecesFrom place chars).length = chars.count '"' + 1 := by
  induction chars using cut_induction generalizing place with
  | last text noQuote =>
      rw [piecesFrom_last noQuote, List.count_eq_zero.mpr noQuote]
      rfl
  | before text rest noQuote restIH =>
      rw [piecesFrom_before noQuote, List.length_cons, restIH, List.count_append,
        List.count_cons_self, List.count_eq_zero.mpr noQuote, Nat.zero_add]

theorem mem_of_mem_piecesFrom {piece : Piece} (member : piece ∈ piecesFrom place chars)
    (inPiece : c ∈ piece.text) : c ∈ chars := by
  induction chars using cut_induction generalizing place with
  | last text noQuote =>
      rw [piecesFrom_last noQuote, List.mem_singleton] at member
      rwa [member] at inPiece
  | before text rest noQuote restIH =>
      rw [piecesFrom_before noQuote, List.mem_cons] at member
      rcases member with rfl | later
      · exact List.mem_append_left _ inPiece
      · exact List.mem_append_right _ (List.mem_cons_of_mem _ (restIH later))

theorem notBlank_of_inRun (holds : inRun c = true) : (!Text.isBlank c) = true :=
  (Bool.and_eq_true_iff.mp holds).1

/-- Of a piece outside quotes nothing but its blanks is lost. -/
theorem bareRuns_flatten (text : List Char) :
    (bareRuns text).flatten = text.filter (!Text.isBlank ·) := by
  fun_induction bareRuns text with
  | case1 => rfl
  | case2 c text blank restIH => simp [blank, restIH]
  | case3 c text notBlank paren restIH => simp [notBlank, restIH]
  | case4 c text notBlank notParen restIH =>
      have kept : (text.takeWhile inRun).filter (!Text.isBlank ·) = text.takeWhile inRun :=
        List.filter_eq_self.mpr fun letter member =>
          notBlank_of_inRun (List.all_eq_true.mp List.all_takeWhile letter member)
      have parts : text.filter (!Text.isBlank ·) =
          text.takeWhile inRun ++ (text.dropWhile inRun).filter (!Text.isBlank ·) := by
        rw [← kept, ← List.filter_append, List.takeWhile_append_dropWhile]
      simp [notBlank, restIH, parts]

namespace Lexeme

theorem isBare_of_inRun (noQuote : c ≠ '"') (holds : inRun c = true) : IsBare c := by
  simp only [inRun, Bool.and_eq_true, Bool.not_eq_true', Bool.or_eq_false_iff,
    decide_eq_false_iff_not] at holds
  exact ⟨noQuote, holds.2.1, holds.2.2, holds.1⟩

/-- A rest of a line before which a run ends. -/
def EndsRun (rest : List Char) : Prop :=
  ∀ run, scan false run rest = endRun run ++ scan false [] rest

theorem endsRun_nil : EndsRun [] :=
  fun _ => (List.append_nil _).symm

theorem endsRun_open (rest : List Char) : EndsRun ('"' :: rest) :=
  fun _ => rfl

theorem endsRun_of_not_inRun (outside : inRun c = false) (rest : List Char) :
    EndsRun (c :: rest) := by
  intro run
  cases blank : Text.isBlank c with
  | true =>
      rw [scan_blank_cons blank, scan_blank_cons blank]
      rfl
  | false =>
      have paren : (c = '(' || c = ')') = true := by
        rwa [inRun, blank, Bool.not_false, Bool.true_and, Bool.not_eq_false'] at outside
      rw [scan_paren_cons paren, scan_paren_cons paren]
      rfl

theorem endsRun_dropWhile (ends : EndsRun rest) (chars : List Char) :
    EndsRun (chars.dropWhile inRun ++ rest) := by
  have stopped := List.head?_dropWhile_not inRun chars
  cases left : chars.dropWhile inRun with
  | nil => exact ends
  | cons c later =>
      rw [left] at stopped
      exact endsRun_of_not_inRun stopped _

theorem scan_bare_piece (noQuote : '"' ∉ text) (ends : EndsRun rest) :
    scan false [] (text ++ rest) = (bareRuns text).map bare ++ scan false [] rest := by
  fun_induction bareRuns text with
  | case1 => rfl
  | case2 c text blank restIH =>
      have later : '"' ∉ text := fun member => noQuote (List.mem_cons_of_mem c member)
      rw [List.cons_append, scan_blank_cons blank]
      exact restIH later
  | case3 c text notBlank paren restIH =>
      have later : '"' ∉ text := fun member => noQuote (List.mem_cons_of_mem c member)
      rw [List.cons_append, scan_paren_cons paren, restIH later]
      rfl
  | case4 c text notBlank notParen restIH =>
      have parts : text.takeWhile inRun ++ text.dropWhile inRun = text :=
        List.takeWhile_append_dropWhile
      have runBare : ∀ letter ∈ c :: text.takeWhile inRun, IsBare letter := by
        intro letter member
        have inside : letter ∈ c :: text :=
          ((List.takeWhile_sublist inRun).cons_cons c).mem member
        refine isBare_of_inRun (fun same => noQuote (same ▸ inside)) ?_
        rcases List.mem_cons.mp member with rfl | member
        · simp [inRun, notBlank, notParen]
        · exact List.all_eq_true.mp List.all_takeWhile letter member
      have later : '"' ∉ text.dropWhile inRun := fun member =>
        noQuote (List.mem_cons_of_mem c ((List.dropWhile_sublist inRun).mem member))
      have cut : c :: text ++ rest =
          (c :: text.takeWhile inRun) ++ (text.dropWhile inRun ++ rest) := by
        simp only [← List.append_assoc, List.cons_append, parts]
      -- A longest run is ended by what is left of the piece, or else by what follows the piece.
      rw [cut, scan_bare runBare, endsRun_dropWhile ends, restIH later, List.append_nil,
        endRun_reverse (List.cons_ne_nil _ _)]
      rfl

/-- What the scan finds in a piece. -/
def ofPiece (piece : Piece) : List Lexeme :=
  if piece.inQuotes then [quoted piece.text] else (bareRuns piece.text).map bare

theorem scan_pieces (closed : (place + chars.count '"') % 2 = 0) :
    scan (place % 2 = 1) [] chars = (piecesFrom place chars).flatMap ofPiece := by
  induction chars using cut_induction generalizing place with
  | last text noQuote =>
      rw [List.count_eq_zero.mpr noQuote] at closed
      have outside : ¬ place % 2 = 1 := by omega
      have whole := scan_bare_piece noQuote endsRun_nil
      rw [List.append_nil] at whole
      rw [piecesFrom_last noQuote, decide_eq_false outside, whole]
      simp [ofPiece, Piece.inQuotes, outside, scan, endRun]
  | before text rest noQuote restIH =>
      rw [List.count_append, List.count_cons_self, List.count_eq_zero.mpr noQuote] at closed
      have stillClosed : (place + 1 + rest.count '"') % 2 = 0 := by omega
      rw [piecesFrom_before noQuote, List.flatMap_cons, ← restIH stillClosed, ofPiece,
        Piece.inQuotes]
      -- The quote behind the piece closes if the piece stands inside quotes, and else it opens.
      by_cases inside : place % 2 = 1
      · have closes : ¬ (place + 1) % 2 = 1 := by omega
        rw [decide_eq_true inside, decide_eq_false closes, scan_quoted noQuote]
        rfl
      · have opens : (place + 1) % 2 = 1 := by omega
        rw [decide_eq_false inside, decide_eq_true opens,
          scan_bare_piece noQuote (endsRun_open rest)]
        rfl

/-- Quotes with nothing but blanks between them. -/
def isEmptyQuotes : Lexeme → Bool
  | bare _ => false
  | quoted text => text.all Text.isBlank

def spelling : Lexeme → String
  | bare text => String.ofList text
  | quoted text => String.ofList text

theorem word_eq (lexeme : Lexeme) :
    lexeme.word = if lexeme.isEmptyQuotes then .error .emptyQuotes else .ok lexeme.spelling := by
  cases lexeme <;> rfl

theorem words_eq (lexemes : List Lexeme) :
    words lexemes =
      if lexemes.any isEmptyQuotes then .error .emptyQuotes else .ok (lexemes.map spelling) := by
  induction lexemes with
  | nil => rfl
  | cons lexeme rest restIH =>
      rw [words, word_eq, restIH, List.any_cons]
      cases lexeme.isEmptyQuotes <;> cases rest.any isEmptyQuotes <;> rfl

theorem map_spelling_ofPiece (piece : Piece) : (ofPiece piece).map spelling = piece.words := by
  rw [ofPiece, Piece.words]
  split
  · rfl
  · exact List.map_map

theorem any_isEmptyQuotes_ofPiece (piece : Piece) :
    (ofPiece piece).any isEmptyQuotes = piece.isEmptyQuotes := by
  rw [ofPiece, Piece.isEmptyQuotes]
  cases piece.inQuotes with
  | true => exact Bool.or_false _
  | false => simp [isEmptyQuotes, Function.comp_def]

end Lexeme

theorem Piece.words_toList (piece : Piece) :
    piece.words.flatMap String.toList = piece.kept := by
  rw [words, kept]
  split
  · simp
  · rw [List.flatMap_map, ← bareRuns_flatten, List.flatten_eq_flatMap]
    exact congrArg (List.flatMap · _) (funext fun _ => String.toList_ofList)

theorem tokenize_eq (line : String) :
    tokenize line =
      if line.toList.count '"' % 2 = 1 then .error .unbalancedQuote
      else if (pieces line).any Piece.isEmptyQuotes then .error .emptyQuotes
      else .ok ((pieces line).flatMap Piece.words) := by
  rw [tokenize]
  split
  · rfl
  · next balanced =>
      have closed : (0 + line.toList.count '"') % 2 = 0 := by omega
      have scanned : Lexeme.scan false [] line.toList = (pieces line).flatMap Lexeme.ofPiece :=
        Lexeme.scan_pieces closed
      simp only [scanned, Lexeme.words_eq, List.any_flatMap, Lexeme.any_isEmptyQuotes_ofPiece,
        List.map_flatMap, Lexeme.map_spelling_ofPiece]

theorem Piece.mem_text_of_mem_kept {piece : Piece} (member : c ∈ piece.kept) : c ∈ piece.text := by
  rw [kept] at member
  split at member
  · exact member
  · exact (List.mem_filter.mp member).1

/-- No word holds a character that its line does not hold. -/
theorem mem_of_mem_word {line word : String} {words : List String}
    (cut : tokenize line = .ok words) (member : word ∈ words) (inWord : c ∈ word.toList) :
    c ∈ line.toList := by
  rw [tokenize_eq] at cut
  split at cut
  · contradiction
  · split at cut
    · contradiction
    · cases cut
      obtain ⟨piece, inLine, inPiece⟩ := List.mem_flatMap.mp member
      have kept : c ∈ piece.kept := by
        rw [← piece.words_toList]
        exact List.mem_flatMap.mpr ⟨word, inPiece, inWord⟩
      exact mem_of_mem_piecesFrom inLine (Piece.mem_text_of_mem_kept kept)

/-- A line is refused where its last piece stands inside quotes, and otherwise where a piece inside
quotes is blank. Every other line is cut into the words of its pieces, which together hold every
character except the quotes and the blanks outside them. -/
theorem tokenize_pieces (line : String) :
    (tokenize line).mapError WordFault.message =
        (if ((pieces line).length - 1) % 2 = 1 then .error "Unbalanced quote in command."
        else if (pieces line).any Piece.isEmptyQuotes then .error "Empty predicate name in quotes."
        else .ok ((pieces line).flatMap Piece.words)) ∧
      ∀ words, tokenize line = .ok words →
        words.flatMap String.toList = (pieces line).flatMap Piece.kept := by
  have last : (pieces line).length - 1 = line.toList.count '"' := by
    rw [pieces, length_piecesFrom, Nat.add_sub_cancel]
  have cut := tokenize_eq line
  refine ⟨?_, fun words tokenized => ?_⟩
  · rw [cut, last]
    split
    · rfl
    · split <;> rfl
  · rw [tokenized] at cut
    split at cut
    · contradiction
    · split at cut
      · contradiction
      · cases cut
        rw [List.flatMap_assoc]
        exact congrArg (List.flatMap · _) (funext Piece.words_toList)

/-- The runs before and behind a quoted piece stay apart from it without a blank. -/
theorem tokenize_pieces_without_blanks :
    let line := "fact x\"is human\"(true"
    let words := ["fact", "x", "is human", "(", "true"]
    tokenize line = .ok words ∧
      words.flatMap String.toList = (pieces line).flatMap Piece.kept :=
  ⟨rfl, (tokenize_pieces _).2 _ rfl⟩

end Connexive
