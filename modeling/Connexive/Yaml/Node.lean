import Connexive.Yaml.Token

namespace Connexive.Yaml

/-! The tree of a document. What is left out where a value could stand is the empty plain scalar. -/

inductive Node
  | scalar (literal : Literal)
  | sequence (items : List Node)
  | mapping (entries : List (Node × Node))

namespace Node

def empty : Node := .scalar (.plain "")

/-- Whether the next token is one of `marks`, or none is left. -/
def isNext (marks : List Token) : List Token → Bool
  | [] => true
  | token :: _ => marks.contains token

/-- What is wrong where none of the tokens that could stand comes next. -/
def unexpected : List Token → Fault
  | .impossible reason :: _ => .noSuchValue reason
  | _ => .malformed

/-
Each function reads its part from the front of the tokens and returns the tokens after it. Every
call that does not take a token is followed by one that does, or ends.
-/
mutual

/-- A node. Block collections stand only where `block` says so, and a sequence without indentation
only where `indentless` does. -/
def read (block indentless : Bool) : Nat → List Token → Except Fault (Node × List Token)
  | 0, _ => .error .malformed
  | fuel + 1, tokens =>
    match tokens with
    | .blockEntry :: _ =>
      if indentless then
        (readIndentless fuel tokens).map fun found => (.sequence found.1, found.2)
      else .error .malformed
    | .scalar literal :: rest => .ok (.scalar literal, rest)
    | .flowSequenceStart :: rest =>
      (readFlowItems true fuel rest).map fun found => (.sequence found.1, found.2)
    | .flowMappingStart :: rest =>
      (readFlowEntries true fuel rest).map fun found => (.mapping found.1, found.2)
    | .blockSequenceStart :: rest =>
      if block then
        (readBlockItems fuel rest).map fun found => (.sequence found.1, found.2)
      else .error .malformed
    | .blockMappingStart :: rest =>
      if block then
        (readBlockEntries fuel rest).map fun found => (.mapping found.1, found.2)
      else .error .malformed
    | _ => .error (unexpected tokens)

/-- A node, or the empty one if one of `marks` comes next. -/
def readUnless (marks : List Token) (block indentless : Bool) :
    Nat → List Token → Except Fault (Node × List Token)
  | 0, _ => .error .malformed
  | fuel + 1, tokens =>
    if isNext marks tokens then .ok (empty, tokens) else read block indentless fuel tokens

def readIndentless : Nat → List Token → Except Fault (List Node × List Token)
  | 0, _ => .error .malformed
  | fuel + 1, tokens =>
    match tokens with
    | .blockEntry :: rest =>
      match readUnless [.blockEntry, .key, .value, .blockEnd] true false fuel rest with
      | .error fault => .error fault
      | .ok (item, rest) =>
        (readIndentless fuel rest).map fun found => (item :: found.1, found.2)
    | _ => .ok ([], tokens)

def readBlockItems : Nat → List Token → Except Fault (List Node × List Token)
  | 0, _ => .error .malformed
  | fuel + 1, tokens =>
    match tokens with
    | .blockEntry :: rest =>
      match readUnless [.blockEntry, .blockEnd] true false fuel rest with
      | .error fault => .error fault
      | .ok (item, rest) =>
        (readBlockItems fuel rest).map fun found => (item :: found.1, found.2)
    | .blockEnd :: rest => .ok ([], rest)
    | _ => .error (unexpected tokens)

def readBlockEntries : Nat → List Token → Except Fault (List (Node × Node) × List Token)
  | 0, _ => .error .malformed
  | fuel + 1, tokens =>
    match tokens with
    | .key :: rest =>
      match readUnless [.key, .value, .blockEnd] true true fuel rest with
      | .error fault => .error fault
      | .ok (key, rest) =>
        match readValue [.key, .value, .blockEnd] true fuel rest with
        | .error fault => .error fault
        | .ok (value, rest) =>
          (readBlockEntries fuel rest).map fun found => ((key, value) :: found.1, found.2)
    | .blockEnd :: rest => .ok ([], rest)
    | _ => .error (unexpected tokens)

/-- The value of an entry, empty if its mark is left out or one of `marks` follows the mark. -/
def readValue (marks : List Token) (block : Bool) :
    Nat → List Token → Except Fault (Node × List Token)
  | 0, _ => .error .malformed
  | fuel + 1, tokens =>
    match tokens with
    | .value :: rest => readUnless marks block block fuel rest
    | _ => .ok (empty, tokens)

/-- The items up to the closing bracket. All but the first come after a comma. -/
def readFlowItems (first : Bool) : Nat → List Token → Except Fault (List Node × List Token)
  | 0, _ => .error .malformed
  | fuel + 1, tokens =>
    match tokens, first with
    | .flowSequenceEnd :: rest, _ => .ok ([], rest)
    | .flowEntry :: .flowSequenceEnd :: rest, false => .ok ([], rest)
    | .flowEntry :: rest, false => readFlowItem fuel rest
    | _, true => readFlowItem fuel tokens
    | _, false => .error (unexpected tokens)

/-- One item and those after it. An entry among the items is a mapping of its own. -/
def readFlowItem : Nat → List Token → Except Fault (List Node × List Token)
  | 0, _ => .error .malformed
  | fuel + 1, tokens =>
    match tokens with
    | .key :: rest =>
      match readUnless [.value, .flowEntry, .flowSequenceEnd] false false fuel rest with
      | .error fault => .error fault
      | .ok (key, rest) =>
        match readValue [.flowEntry, .flowSequenceEnd] false fuel rest with
        | .error fault => .error fault
        | .ok (value, rest) =>
          (readFlowItems false fuel rest).map fun found =>
            (.mapping [(key, value)] :: found.1, found.2)
    | _ =>
      match read false false fuel tokens with
      | .error fault => .error fault
      | .ok (item, rest) =>
        (readFlowItems false fuel rest).map fun found => (item :: found.1, found.2)

/-- The entries up to the closing brace. All but the first come after a comma. -/
def readFlowEntries (first : Bool) :
    Nat → List Token → Except Fault (List (Node × Node) × List Token)
  | 0, _ => .error .malformed
  | fuel + 1, tokens =>
    match tokens, first with
    | .flowMappingEnd :: rest, _ => .ok ([], rest)
    | .flowEntry :: .flowMappingEnd :: rest, false => .ok ([], rest)
    | .flowEntry :: rest, false => readFlowPair fuel rest
    | _, true => readFlowPair fuel tokens
    | _, false => .error (unexpected tokens)

/-- One entry and those after it. What has no colon is a key with an empty value. -/
def readFlowPair : Nat → List Token → Except Fault (List (Node × Node) × List Token)
  | 0, _ => .error .malformed
  | fuel + 1, tokens =>
    match tokens with
    | .key :: rest =>
      match readUnless [.value, .flowEntry, .flowMappingEnd] false false fuel rest with
      | .error fault => .error fault
      | .ok (key, rest) =>
        match readValue [.flowEntry, .flowMappingEnd] false fuel rest with
        | .error fault => .error fault
        | .ok (value, rest) =>
          (readFlowEntries false fuel rest).map fun found => ((key, value) :: found.1, found.2)
    | _ =>
      match read false false fuel tokens with
      | .error fault => .error fault
      | .ok (key, rest) =>
        (readFlowEntries false fuel rest).map fun found => ((key, empty) :: found.1, found.2)

end

/-- A root after which nothing but the end of its document comes. -/
def alone (found : Node × List Token) : Except Fault (Option Node) :=
  match found.2.dropWhile (· == .documentEnd) with
  | [] => .ok (some found.1)
  | rest => .error (unexpected rest)

/-- The single document of a token list: its root, or none at all. -/
def ofTokens (tokens : List Token) : Except Fault (Option Node) :=
  let fuel := 4 * tokens.length + 4
  match tokens with
  | [] => .ok none
  | .documentStart :: rest =>
    (readUnless [.documentStart, .documentEnd] true false fuel rest).bind alone
  | _ => (read true false fuel tokens).bind alone

end Node

end Connexive.Yaml
