import Connexive.Yaml.Plain
import Connexive.Yaml.Quoted

namespace Connexive.Yaml

/-!
The tokens of a document. Indentation turns into the start and end of block collections. A key is
known as such only at its colon, so the places where one may have begun are kept until then.
-/

inductive Token
  | documentStart
  | documentEnd
  | blockSequenceStart
  | blockMappingStart
  | blockEnd
  | flowSequenceStart
  | flowSequenceEnd
  | flowMappingStart
  | flowMappingEnd
  | blockEntry
  | flowEntry
  | key
  | value
  | scalar (literal : Literal)
  /-- What ends the tokens early: a scalar that names what there is not. -/
  | impossible (reason : NoSuchValue)
  deriving DecidableEq

/-- A place where a key may have begun: how many tokens stand before it and where it is. A required
one has nothing else that it could be. -/
structure KeyPlace where
  before : Nat
  required : Bool
  index : Nat
  line : Nat
  column : Nat

/-- The state of reading tokens. The latest token comes first. `blocks` holds the columns of the
open block collections, the innermost first; `keys` has the possible key of each open bracket, the
innermost first, and of the block context last. -/
structure Scanner where
  cursor : Cursor
  tokens : List Token
  blocks : List Nat
  keys : List (Option KeyPlace)
  keyAllowed : Bool

namespace Scanner

def start (text : List Char) : Scanner where
  cursor := ⟨if text.head? == some '\uFEFF' then text.drop 1 else text, 0, 0, 0⟩
  tokens := []
  blocks := []
  keys := [none]
  keyAllowed := true

def inFlow (scanner : Scanner) : Bool :=
  scanner.keys.length != 1

def emit (scanner : Scanner) (token : Token) : Scanner :=
  { scanner with tokens := token :: scanner.tokens }

def move (scanner : Scanner) (count : Nat) : Scanner :=
  { scanner with cursor := scanner.cursor.advance count }

def allowKey (scanner : Scanner) (allowed : Bool) : Scanner :=
  { scanner with keyAllowed := allowed }

/-- Gives up the possible key of the innermost context, unless it is required. -/
def dropKey (scanner : Scanner) : Option Scanner :=
  match scanner.keys with
  | some place :: outer =>
    if place.required then none else some { scanner with keys := none :: outer }
  | _ => some scanner

/-- A key has to reach its colon within its line and within 1024 characters. -/
def isStale (cursor : Cursor) (place : KeyPlace) : Bool :=
  place.line != cursor.line || 1024 < cursor.index - place.index

/-- The possible keys without those that come too late, none of which may be required. -/
def freshKeys (cursor : Cursor) : List (Option KeyPlace) → Option (List (Option KeyPlace))
  | [] => some []
  | none :: outer => (freshKeys cursor outer).map (none :: ·)
  | some place :: outer =>
    if !isStale cursor place then (freshKeys cursor outer).map (some place :: ·)
    else if place.required then none
    else (freshKeys cursor outer).map (none :: ·)

def dropStaleKeys (scanner : Scanner) : Option Scanner :=
  (freshKeys scanner.cursor scanner.keys).map fun keys => { scanner with keys := keys }

/-- Notes that a key may begin here. -/
def saveKey (scanner : Scanner) : Option Scanner :=
  if scanner.keyAllowed then
    scanner.dropKey.map fun scanner =>
      let cursor := scanner.cursor
      let place : KeyPlace :=
        { before := scanner.tokens.length
          required := !scanner.inFlow && scanner.blocks.head? == some cursor.column
          index := cursor.index
          line := cursor.line
          column := cursor.column }
      { scanner with keys := some place :: scanner.keys.tail }
  else some scanner

/-- Ends the block collections whose column `closes`. Brackets suspend indentation. -/
def closeBlocks (closes : Nat → Bool) (scanner : Scanner) : Scanner :=
  if scanner.inFlow then scanner
  else
    { scanner with
      tokens := List.replicate (scanner.blocks.takeWhile closes).length .blockEnd ++
        scanner.tokens
      blocks := scanner.blocks.dropWhile closes }

/-- Whether a block collection at `column` would be a new one inside those that are open. -/
def opensBlock (scanner : Scanner) (column : Nat) : Bool :=
  match scanner.blocks with
  | [] => true
  | innermost :: _ => innermost < column

/-- Opens a block collection at the cursor, if it is a new one. -/
def openBlock (scanner : Scanner) (token : Token) : Scanner :=
  let column := scanner.cursor.column
  if scanner.opensBlock column then
    { scanner.emit token with blocks := column :: scanner.blocks }
  else scanner

/-- Past spaces, comments and line breaks. The flag tells whether a line break was among them. -/
def skipGap (inComment passedBreak : Bool) (cursor : Cursor) : List Char → Bool × Cursor
  | [] => (passedBreak, cursor)
  | c :: rest =>
    if isBreak c then skipGap false true (cursor.past c rest) rest
    else if inComment || c = ' ' then skipGap inComment passedBreak (cursor.past c rest) rest
    else if c = '#' then skipGap true passedBreak (cursor.past c rest) rest
    else (passedBreak, cursor)

/-- Moves to the next token. A new line outside brackets may begin with a key. -/
def toNextToken (scanner : Scanner) : Option Scanner :=
  let (passedBreak, cursor) := skipGap false false scanner.cursor scanner.cursor.rest
  let moved :=
    { scanner with
      cursor := cursor
      keyAllowed := scanner.keyAllowed || passedBreak && !scanner.inFlow }
  moved.dropStaleKeys.map (closeBlocks (cursor.column < ·))

def documentMark (scanner : Scanner) (token : Token) : Option Scanner :=
  if scanner.inFlow then none
  else
    (scanner.closeBlocks fun _ => true).dropKey.map fun scanner =>
      ((scanner.allowKey false).emit token).move 3

def openFlow (scanner : Scanner) (token : Token) : Option Scanner :=
  scanner.saveKey.map fun scanner =>
    let opened := (scanner.emit token).move 1
    { opened with keys := none :: opened.keys, keyAllowed := true }

def closeFlow (scanner : Scanner) (token : Token) : Option Scanner :=
  if scanner.inFlow then
    let closed := (scanner.emit token).move 1
    some { closed with keys := closed.keys.tail, keyAllowed := false }
  else none

def flowEntry (scanner : Scanner) : Option Scanner :=
  scanner.dropKey.map fun scanner => ((scanner.allowKey true).emit .flowEntry).move 1

/-- The mark of a block item. Between brackets it opens no block, and no node takes it: the layout is
broken, but only where the tokens are put together. -/
def blockEntry (scanner : Scanner) : Option Scanner :=
  if scanner.inFlow then
    scanner.dropKey.map fun scanner => ((scanner.allowKey true).emit .blockEntry).move 1
  else if scanner.keyAllowed then
    (scanner.openBlock .blockSequenceStart).dropKey.map fun scanner =>
      ((scanner.allowKey true).emit .blockEntry).move 1
  else none

/-- A key that is marked by a question mark. -/
def markedKey (scanner : Scanner) : Option Scanner :=
  if scanner.inFlow then
    scanner.dropKey.map fun scanner => ((scanner.allowKey false).emit .key).move 1
  else if scanner.keyAllowed then
    (scanner.openBlock .blockMappingStart).dropKey.map fun scanner =>
      ((scanner.allowKey true).emit .key).move 1
  else none

/-- Puts the tokens that announce a key in front of it, now that its colon is reached. -/
def announceKey (scanner : Scanner) (place : KeyPlace) : Scanner :=
  let since := scanner.tokens.length - place.before
  let opens := !scanner.inFlow && scanner.opensBlock place.column
  let announced := if opens then [Token.key, .blockMappingStart] else [.key]
  { scanner with
    tokens := scanner.tokens.take since ++ announced ++ scanner.tokens.drop since
    blocks := if opens then place.column :: scanner.blocks else scanner.blocks
    keys := none :: scanner.keys.tail
    keyAllowed := false }

def valueMark (scanner : Scanner) : Option Scanner :=
  match scanner.keys with
  | some place :: _ => some (((scanner.announceKey place).emit .value).move 1)
  | _ =>
    if scanner.inFlow then
      some (((scanner.allowKey false).emit .value).move 1)
    else if scanner.keyAllowed then
      (scanner.openBlock .blockMappingStart).dropKey.map fun scanner =>
        ((scanner.allowKey true).emit .value).move 1
    else none

def quotedScalar (double : Bool) (scanner : Scanner) : Except Fault Scanner :=
  match scanner.saveKey with
  | none => .error .malformed
  | some scanner =>
    (Quoted.read double scanner.cursor).map fun found =>
      { (scanner.allowKey false).emit (.scalar found.1) with cursor := found.2 }

def plainScalar (scanner : Scanner) : Option Scanner :=
  scanner.saveKey.map fun scanner =>
    let indent := match scanner.blocks with
      | [] => 0
      | innermost :: _ => innermost + 1
    let found := Plain.read scanner.inFlow indent scanner.cursor
    { scanner.emit (.scalar (.plain (String.ofList found.text))) with
      cursor := found.cursor
      keyAllowed := found.endedLine }

/-- Reads the token that starts with `c`, which `next` follows and which is no quote. -/
def unquotedToken (scanner : Scanner) (c : Char) (next : Option Char) : Option Scanner :=
  if scanner.cursor.atDocumentStart then scanner.documentMark .documentStart
  else if scanner.cursor.atDocumentEnd then scanner.documentMark .documentEnd
  else if c = '[' then scanner.openFlow .flowSequenceStart
  else if c = '\x7b' then scanner.openFlow .flowMappingStart
  else if c = ']' then scanner.closeFlow .flowSequenceEnd
  else if c = '\x7d' then scanner.closeFlow .flowMappingEnd
  else if c = ',' then scanner.flowEntry
  else if c = '-' && separates next then scanner.blockEntry
  else if c = '?' && (scanner.inFlow || separates next) then scanner.markedKey
  else if c = ':' && (scanner.inFlow || separates next) then scanner.valueMark
  else if Plain.starts scanner.inFlow c next then scanner.plainScalar
  else none

/-- Reads the token that starts with `c`, which `next` follows. -/
def token (scanner : Scanner) (c : Char) (next : Option Char) : Except Fault Scanner :=
  if c = '\'' then scanner.quotedScalar false
  else if c = '"' then scanner.quotedScalar true
  else required (scanner.unquotedToken c next)

/-- The tokens up to the end of the document, in order. -/
def finish (scanner : Scanner) : Option (List Token) :=
  if scanner.inFlow then none
  else (scanner.closeBlocks fun _ => true).dropKey.map (·.tokens.reverse)

/-- The tokens before the first that may still turn out to begin a key, in order. -/
def settled (scanner : Scanner) : List Token :=
  let pending := scanner.keys.filterMap (·.filter (!isStale scanner.cursor ·))
  scanner.tokens.reverse.take
    (pending.foldl (fun count place => min count place.before) scanner.tokens.length)

/-- Every token takes a character at least, so the characters bound the number of rounds. -/
def scanFrom : Nat → Scanner → Option (List Token)
  | 0, _ => none
  | fuel + 1, scanner =>
    match scanner.toNextToken with
    | none => none
    | some moved =>
      match moved.cursor.rest with
      | [] => moved.finish
      | c :: rest =>
        match moved.token c rest.head? with
        | .ok next => scanFrom fuel next
        | .error .malformed => none
        | .error (.noSuchValue reason) => some (scanner.settled ++ [.impossible reason])

end Scanner

/-- The tokens of a text, unless its layout is broken. Where a scalar names what there is not, they
are those that can be told before it. -/
def Token.scan? (text : List Char) : Option (List Token) :=
  Scanner.scanFrom (text.length + 1) (.start text)

end Connexive.Yaml
