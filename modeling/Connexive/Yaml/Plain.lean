import Connexive.Yaml.Cursor

namespace Connexive.Yaml.Plain

/-!
The text of scalars without quotes. It ends at a comment, at a colon that separates, and inside
brackets also at their punctuation. It may go on over several lines, which fold to one.
-/

/-- Whether a plain scalar can start at `c` when `next` follows. -/
def starts (inFlow : Bool) (c : Char) (next : Option Char) : Bool :=
  !(separates (some c) || "-?:,[]\x7b\x7d#&*!|>'\"%@\x60".toList.contains c) ||
    !separates next && (c == '-' || !inFlow && (c == '?' || c == ':'))

/-- Whether a run of text ends before `c` when `next` follows. -/
def endsRun (inFlow : Bool) (c : Char) (next : Option Char) : Bool :=
  separates (some c) ||
    c == ':' && (separates next || inFlow && (next.elim false ",[]\x7b\x7d".toList.contains)) ||
    inFlow && ",?[]\x7b\x7d".toList.contains c

def run (inFlow : Bool) : List Char → List Char
  | [] => []
  | c :: rest => if endsRun inFlow c rest.head? then [] else c :: run inFlow rest

/-- Past the spaces and empty lines that follow a line break, with the text of those lines. The
last component tells whether a document mark ends the scalar here. -/
def emptyLines : Nat → List Char → Cursor → List Char × Cursor × Bool
  | 0, breaks, cursor => (breaks, cursor, true)
  | fuel + 1, breaks, cursor =>
    if cursor.atDocumentMark then (breaks, cursor, true)
    else
      match cursor.rest with
      | c :: rest =>
        if c = ' ' then emptyLines fuel breaks (cursor.past c rest)
        else if isBreak c then
          emptyLines fuel (breaks ++ [breakText c]) (cursor.past c rest)
        else (breaks, cursor, false)
      | [] => (breaks, cursor, false)

/-- What lies between two runs of a scalar: its text, the cursor behind it, and whether a line
break was passed. An empty text ends the scalar. -/
structure Gap where
  text : List Char
  cursor : Cursor
  passedBreak : Bool

def gap (cursor : Cursor) : Gap :=
  let spaces := cursor.rest.takeWhile (· == ' ')
  let next := cursor.advance spaces.length
  match next.rest with
  | [] => ⟨spaces, next, false⟩
  | c :: rest =>
    if isBreak c then
      match emptyLines (rest.length + 1) [] (next.past c rest) with
      | (_, after, true) => ⟨[], after, true⟩
      | (breaks, after, false) => ⟨folded c breaks, after, true⟩
    else ⟨spaces, next, false⟩

/-- A plain scalar, the cursor behind it and the gap after it, and whether that gap holds a line
break. -/
structure Scalar where
  text : List Char
  cursor : Cursor
  endedLine : Bool

/-- Continues a scalar whose text so far is `read`, last character first, followed by the text of a
gap. Outside brackets its lines have to be indented to `indent`. -/
def readFrom (inFlow : Bool) (indent : Nat) :
    Nat → List Char → List Char → Bool → Cursor → Scalar
  | 0, read, _, endedLine, cursor => ⟨read.reverse, cursor, endedLine⟩
  | fuel + 1, read, between, endedLine, cursor =>
    let found := run inFlow cursor.rest
    if cursor.peek == some '#' || found.isEmpty then ⟨read.reverse, cursor, endedLine⟩
    else
      let longer := found.reverse ++ (between.reverse ++ read)
      let after := gap (cursor.advance found.length)
      if after.text.isEmpty || after.cursor.peek == some '#' ||
          !inFlow && after.cursor.column < indent then
        ⟨longer.reverse, after.cursor, after.passedBreak⟩
      else
        readFrom inFlow indent fuel longer after.text after.passedBreak after.cursor

def read (inFlow : Bool) (indent : Nat) (cursor : Cursor) : Scalar :=
  readFrom inFlow indent (cursor.rest.length + 1) [] [] false cursor

end Connexive.Yaml.Plain
