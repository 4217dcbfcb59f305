import Connexive.Text.CaseTable

namespace Connexive.Text

/-!
The full case maps of Unicode, which may lengthen a text. Only the capital sigma looks at its
neighbours: at the end of a word it takes its final form.
-/

def isCaseIgnorable (c : Char) : Bool :=
  inRanges caseIgnorableRanges c.toNat

def isCased (c : Char) : Bool :=
  inRanges casedRanges c.toNat

/-- Whether the nearest character that case does not pass over is a letter with case. -/
def meetsCased (cs : List Char) : Bool :=
  match cs.dropWhile isCaseIgnorable with
  | [] => false
  | c :: _ => isCased c

/-- The lower-case form of one character, the place of a sigma left out of account. -/
def lowerChar (c : Char) : List Char :=
  if c.toNat < 0x80 then
    if 'A' ≤ c && c ≤ 'Z' then [Char.ofNat (c.toNat + 32)] else [c]
  else if c = 'İ' then
    ['i', '\u0307']
  else
    [Char.ofNat (shifted lowerRuns c.toNat)]

/-- The lower-case form of `rest`, where `before` holds the preceding characters, nearest first. -/
def lowerFrom (before : List Char) : List Char → List Char
  | [] => []
  | c :: rest =>
    let form :=
      if c = 'Σ' && meetsCased before && !meetsCased rest then ['ς'] else lowerChar c
    form ++ lowerFrom (c :: before) rest

def lower (s : String) : String :=
  String.ofList (lowerFrom [] s.toList)

def upperChar (c : Char) : List Char :=
  if c.toNat < 0x80 then
    if 'a' ≤ c && c ≤ 'z' then [Char.ofNat (c.toNat - 32)] else [c]
  else
    match longUppers.lookup c.toNat with
    | some codes => codes.map Char.ofNat
    | none => [Char.ofNat (shifted upperRuns c.toNat)]

def upper (s : String) : String :=
  String.ofList (s.toList.flatMap upperChar)

end Connexive.Text
