import Connexive.Yaml.Node
import Connexive.Yaml.Scalar

namespace Connexive.Yaml

/-!
The value that the text of a document stands for. A tree is searched for faults from its root down,
one depth after the other, so that the fault of the highest part is the one that is met.
-/

namespace Node

/-- Whether a key asks for the entries of other mappings. -/
def isMerge : Node → Bool
  | scalar literal => literal == .plain "<<"
  | _ => false

mutual

/-- Whether the entries of a node can be taken over: those of a mapping, or of several. -/
def offersEntries : Node → Bool
  | scalar _ => false
  | sequence items => allMappings items
  | mapping entries => mergesAll entries

def allMappings : List Node → Bool
  | [] => true
  | mapping entries :: rest => mergesAll entries && allMappings rest
  | _ :: _ => false

/-- Whether all that the entries ask for can be taken over. -/
def mergesAll : List (Node × Node) → Bool
  | [] => true
  | (key, item) :: rest => (!key.isMerge || offersEntries item) && mergesAll rest

end

/-- What is wrong at each depth, from the left to the right. -/
abbrev Faults := List (List Fault)

/-- The faults of two parts that stand beside one another. -/
def Faults.beside : Faults → Faults → Faults
  | [], others => others
  | faults, [] => faults
  | first :: faults, second :: others => (first ++ second) :: beside faults others

def faultsOf (value : Except Fault Value) : Faults :=
  match value with
  | .ok _ => []
  | .error fault => [[fault]]

/-- The faults of a key; no collection can be one. -/
def keyFaults : Node → Faults
  | scalar literal => faultsOf literal.key
  | _ => [[.malformed]]

mutual

/-- The faults of a node. Those of the parts lie one deeper. -/
def faults : Node → Faults
  | scalar literal => faultsOf literal.value
  | sequence items => [] :: itemFaults items
  | mapping entries =>
    if mergesAll entries then
      let found := entryFaults entries
      [] :: found.1.beside found.2
    else [[], [.malformed]]

def itemFaults : List Node → Faults
  | [] => []
  | item :: rest => (faults item).beside (itemFaults rest)

/-- The faults of the entries that others take over, and those of the others themselves. -/
def entryFaults : List (Node × Node) → Faults × Faults
  | [] => ([], [])
  | (key, item) :: rest =>
    let found := entryFaults rest
    if key.isMerge then ((offeredFaults item).beside found.1, found.2)
    else (found.1, (keyFaults key).beside ((faults item).beside found.2))

/-- The faults of the entries that a node offers, in the order in which they are taken over. -/
def offeredFaults : Node → Faults
  | scalar _ => []
  | sequence items => allOfferedFaults items
  | mapping entries =>
    let found := entryFaults entries
    found.1.beside found.2

def allOfferedFaults : List Node → Faults
  | [] => []
  | item :: rest => (allOfferedFaults rest).beside (offeredFaults item)

end

/-- The fault that is met first. -/
def fault? (node : Node) : Option Fault :=
  node.faults.flatten.head?

/-- The fields of a mapping: those that it takes over and its own. -/
structure Fields where
  inherited : List (String × Value)
  own : List (String × Value)

/-- All fields in order. Where a key occurs again the later one counts. -/
def Fields.all (fields : Fields) : List (String × Value) :=
  fields.inherited ++ fields.own

/-- The name of a field. Keys other than texts have none. -/
def fieldName? : Node → Option String
  | scalar literal =>
    match literal.key with
    | .ok (.text name) => some name
    | _ => none
  | _ => none

mutual

/-- The value of a node without faults. -/
def value : Node → Value
  | scalar literal => literal.value.toOption.getD .null
  | sequence items => .list (values items)
  | mapping entries => Value.ofFields (fields entries).all

def values : List Node → List Value
  | [] => []
  | item :: rest => value item :: values rest

def fields : List (Node × Node) → Fields
  | [] => ⟨[], []⟩
  | (key, item) :: rest =>
    let found := fields rest
    if key.isMerge then { found with inherited := offered item ++ found.inherited }
    else
      match key.fieldName? with
      | some name => { found with own := (name, value item) :: found.own }
      | none => found

/-- The fields that a node offers to others. Of several mappings the first that has a key holds
it. -/
def offered : Node → List (String × Value)
  | scalar _ => []
  | sequence items => allOffered items
  | mapping entries => (fields entries).all

def allOffered : List Node → List (String × Value)
  | [] => []
  | item :: rest => allOffered rest ++ offered item

end

end Node

/-- Whether a character may stand in a document: the line breaks, the tab, and what is no control,
no surrogate and no non-character at the end of the basic plane. -/
def isAllowed (c : Char) : Bool :=
  c == '\t' || c == '\n' || c == '\r' || c == '\u0085' ||
    0x20 ≤ c.toNat && c.toNat ≤ 0x7E || 0xA0 ≤ c.toNat && c.toNat ≤ 0xFFFD || 0x10000 ≤ c.toNat

/-- The root of the document in a text, if it holds one. -/
def root (text : List Char) : Except Fault (Option Node) :=
  (required (Token.scan? text)).bind Node.ofTokens

/-- Where the piece of a text starts in which the character at `index` is. A text is taken in pieces,
of which the first is as long as two of the others. -/
def pieceStart (index : Nat) : Nat :=
  if index < 8192 then 0 else index - index % 4096

/-- What is wrong with a text that holds a character that may not stand. The pieces before it are
still read. -/
def faultBefore (text : List Char) (index : Nat) : Fault :=
  match root (text.take (pieceStart index)) with
  | .error fault => fault
  | .ok _ => .malformed

/-- The value of a text, null if it holds no document. -/
def load (text : String) : Except Fault Value :=
  let chars := text.toList
  match chars.findIdx? (!isAllowed ·) with
  | some index => .error (faultBefore chars index)
  | none =>
    match root chars with
    | .error fault => .error fault
    | .ok none => .ok .null
    | .ok (some node) =>
      match node.fault? with
      | some fault => .error fault
      | none => .ok node.value

end Connexive.Yaml
