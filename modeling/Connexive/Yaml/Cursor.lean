namespace Connexive.Yaml

/-! A place in a document: what is still to be read and where it stands. -/

def isBreak (c : Char) : Bool :=
  c == '\n' || c == '\u0085' || c == '\u2028' || c == '\u2029'

/-- Whether a separation follows: a space, a tab, a line break or the end. -/
def separates : Option Char → Bool
  | none => true
  | some c => c == ' ' || c == '\t' || isBreak c

structure Cursor where
  rest : List Char
  index : Nat
  line : Nat
  column : Nat

namespace Cursor

def peek (cursor : Cursor) : Option Char :=
  cursor.rest.head?

/-- The cursor behind the character `c`, with `rest` after it. A byte order mark has no width. -/
def past (cursor : Cursor) (c : Char) (rest : List Char) : Cursor :=
  if isBreak c then ⟨rest, cursor.index + 1, cursor.line + 1, 0⟩
  else
    ⟨rest, cursor.index + 1, cursor.line,
      if c = '\uFEFF' then cursor.column else cursor.column + 1⟩

def advance : Nat → Cursor → Cursor
  | 0, cursor => cursor
  | count + 1, cursor =>
    match cursor.rest with
    | [] => cursor
    | c :: rest => advance count (cursor.past c rest)

/-- Whether the three characters of `mark` stand at the start of a line with a separation behind. -/
def atMark (mark : List Char) (cursor : Cursor) : Bool :=
  cursor.column == 0 && cursor.rest.take 3 == mark && separates (cursor.rest.drop 3).head?

def atDocumentStart (cursor : Cursor) : Bool :=
  cursor.atMark ['-', '-', '-']

def atDocumentEnd (cursor : Cursor) : Bool :=
  cursor.atMark ['.', '.', '.']

def atDocumentMark (cursor : Cursor) : Bool :=
  cursor.atDocumentStart || cursor.atDocumentEnd

end Cursor

/-- What a line break contributes to a text: a line feed, unless it is one of the two separators
of Unicode. -/
def breakText (c : Char) : Char :=
  if c = '\u2028' || c = '\u2029' then c else '\n'

/-- The text of a line break and the empty lines after it: a single line feed folds to a space. -/
def folded (first : Char) (more : List Char) : List Char :=
  if breakText first ≠ '\n' then breakText first :: more
  else if more.isEmpty then [' ']
  else more

end Connexive.Yaml
