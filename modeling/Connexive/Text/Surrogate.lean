namespace Connexive.Text

/-! Surrogates: code points that are no characters, but of which a pair stands for one. -/

def isHighSurrogate (code : Nat) : Bool :=
  0xD800 ≤ code && code < 0xDC00

def isLowSurrogate (code : Nat) : Bool :=
  0xDC00 ≤ code && code < 0xE000

def isSurrogate (code : Nat) : Bool :=
  isHighSurrogate code || isLowSurrogate code

/-- The character of a code point. A surrogate has none and is replaced. -/
def charOfCode (code : Nat) : Char :=
  if isSurrogate code then '\uFFFD' else Char.ofNat code

/-- The text of code points, in which a high surrogate and a low one after it are one character. -/
def ofCodes : List Nat → List Char
  | [] => []
  | [code] => [charOfCode code]
  | high :: low :: rest =>
    if isHighSurrogate high && isLowSurrogate low then
      Char.ofNat (0x10000 + (high - 0xD800) * 0x400 + (low - 0xDC00)) :: ofCodes rest
    else charOfCode high :: ofCodes (low :: rest)

end Connexive.Text
