namespace Connexive.Text

/-! Texts cut into parts: between separators, at line feeds, and at the line breaks of any
system. -/

/-- The parts of a text between the separators, empty ones included. -/
def split (separator : Char) : List Char → List (List Char)
  | [] => [[]]
  | c :: rest =>
    if c = separator then [] :: split separator rest
    else
      match split separator rest with
      | [] => [[c]]
      | first :: others => (c :: first) :: others

/-- The lines that line feeds end. What follows the last of them is a line only if it holds a
character. -/
def feedLines (s : String) : List String :=
  let parts := split '\n' s.toList
  (if parts.getLast? = some [] then parts.dropLast else parts).map String.ofList

/-- The characters that end a line. A carriage return followed by a line feed ends it once. -/
def isLineBreak (c : Char) : Bool :=
  c ∈ ['\n', '\r', '\x0B', '\x0C', '\x1C', '\x1D', '\x1E', '\u0085', '\u2028', '\u2029']

/-- The lines of a text, where `line` holds the characters of the first one read so far, last
first. What follows the final break is a line only if it holds a character. -/
def linesFrom (line : List Char) : List Char → List (List Char)
  | [] => if line.isEmpty then [] else [line.reverse]
  | '\r' :: '\n' :: rest => line.reverse :: linesFrom [] rest
  | c :: rest =>
    if isLineBreak c then line.reverse :: linesFrom [] rest else linesFrom (c :: line) rest

def lines (s : String) : List String :=
  (linesFrom [] s.toList).map String.ofList

/-- The text up to its first line feed. -/
def firstLine (s : String) : String :=
  String.ofList (s.toList.takeWhile (· != '\n'))

/-- The text with each line break of another system written as a line feed. -/
def normaliseBreaks : List Char → List Char
  | [] => []
  | '\r' :: '\n' :: rest => '\n' :: normaliseBreaks rest
  | '\r' :: rest => '\n' :: normaliseBreaks rest
  | c :: rest => c :: normaliseBreaks rest

end Connexive.Text
