import Connexive.Text.Surrogate
import Connexive.Yaml.Cursor
import Connexive.Yaml.Fault
import Connexive.Yaml.Scalar

namespace Connexive.Yaml.Quoted

/-!
The text of quoted scalars. A line break in one folds to a space. Between single quotes only the
quote itself is doubled; between double quotes a backslash starts an escape. Escapes may name code
points that are no characters, so the text is read as code points first.
-/

def hexValue? (c : Char) : Option Nat :=
  if '0' ≤ c && c ≤ '9' then some (c.toNat - '0'.toNat)
  else if 'a' ≤ c && c ≤ 'f' then some (c.toNat - 'a'.toNat + 10)
  else if 'A' ≤ c && c ≤ 'F' then some (c.toNat - 'A'.toNat + 10)
  else none

/-- The number of the next `count` hexadecimal digits. -/
def hexNumber? (number : Nat) : Nat → List Char → Option Nat
  | 0, _ => some number
  | _ + 1, [] => none
  | count + 1, c :: rest =>
    match hexValue? c with
    | some digit => hexNumber? (16 * number + digit) count rest
    | none => none

def namedEscapes : List (Char × Char) := [
  ('0', '\x00'), ('a', '\x07'), ('b', '\x08'), ('t', '\t'), ('\t', '\t'), ('n', '\n'),
  ('v', '\x0B'), ('f', '\x0C'), ('r', '\r'), ('e', '\x1B'), (' ', ' '), ('"', '"'), ('\\', '\\'),
  ('/', '/'), ('N', '\u0085'), ('_', '\u00A0'), ('L', '\u2028'), ('P', '\u2029')]

/-- How many digits follow the letter of a numeric escape. -/
def numericEscapes : List (Char × Nat) :=
  [('x', 2), ('u', 4), ('U', 8)]

/-- Past the blanks and empty lines that follow a line break, with the text of those lines. A
document mark may not stand here. -/
def emptyLines : Nat → List Char → Cursor → Except Fault (List Char × Cursor)
  | 0, _, _ => .error .malformed
  | fuel + 1, breaks, cursor =>
    if cursor.atDocumentMark then .error .malformed
    else
      let blanks := cursor.rest.takeWhile fun c => c == ' ' || c == '\t'
      let next := cursor.advance blanks.length
      match next.rest with
      | c :: rest =>
        if isBreak c then emptyLines fuel (breaks ++ [breakText c]) (next.past c rest)
        else .ok (breaks, next)
      | [] => .ok (breaks, next)

/-- The text of the blanks at the cursor, with the line break after them if there is one. -/
def spaces (cursor : Cursor) : Except Fault (List Char × Cursor) :=
  let blanks := cursor.rest.takeWhile fun c => c == ' ' || c == '\t'
  let next := cursor.advance blanks.length
  match next.rest with
  | [] => .error .malformed
  | c :: rest =>
    if isBreak c then
      (emptyLines (rest.length + 1) [] (next.past c rest)).map fun found =>
        (folded c found.1, found.2)
    else .ok (blanks, next)

def codes (text : List Char) : List Nat :=
  text.map Char.toNat

/-- The code points of the escape at the cursor, which stands behind the backslash. -/
def escape (cursor : Cursor) : Except Fault (List Nat × Cursor) :=
  match cursor.rest with
  | [] => .error .malformed
  | c :: rest =>
    match namedEscapes.lookup c, numericEscapes.lookup c with
    | some named, _ => .ok (codes [named], cursor.past c rest)
    | none, some count =>
      match hexNumber? 0 count rest with
      | none => .error .malformed
      | some code =>
        if code < 0x110000 then .ok ([code], cursor.advance (count + 1))
        else .error (.noSuchValue (.character code))
    | none, none =>
      if isBreak c then
        (emptyLines (rest.length + 1) [] (cursor.past c rest)).map fun found =>
          (codes found.1, found.2)
      else .error .malformed

/-- The code points of a quoted scalar, where `read` holds those up to the cursor, last first. -/
def readFrom (double : Bool) : Nat → List Nat → Cursor → Except Fault (List Nat × Cursor)
  | 0, _, _ => .error .malformed
  | fuel + 1, read, cursor =>
    match cursor.rest with
    | [] => .error .malformed
    | c :: rest =>
      let next := cursor.past c rest
      if c == ' ' || c == '\t' || isBreak c then
        match spaces cursor with
        | .ok (blanks, after) => readFrom double fuel ((codes blanks).reverse ++ read) after
        | .error fault => .error fault
      else if double && c == '\\' then
        match escape next with
        | .ok (escaped, after) => readFrom double fuel (escaped.reverse ++ read) after
        | .error fault => .error fault
      else if !double && c == '\'' && rest.head? == some '\'' then
        readFrom double fuel (c.toNat :: read) (cursor.advance 2)
      else if c == (if double then '"' else '\'') then
        .ok (read.reverse, next)
      else
        readFrom double fuel (c.toNat :: read) next

def literal (codes : List Nat) : Literal :=
  if codes.any Text.isSurrogate then .surrogates (String.ofList (Text.ofCodes codes))
  else .quoted (String.ofList (Text.ofCodes codes))

/-- The scalar at the cursor, which stands on the opening quote. -/
def read (double : Bool) (cursor : Cursor) : Except Fault (Literal × Cursor) :=
  (readFrom double (cursor.rest.length + 1) [] (cursor.advance 1)).map fun found =>
    (literal found.1, found.2)

end Connexive.Yaml.Quoted
