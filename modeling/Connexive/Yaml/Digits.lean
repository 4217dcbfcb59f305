namespace Connexive.Yaml

/-! Digits of several bases, and the signs before them. Underscores part digits and do not count. -/

def isSign (c : Char) : Bool :=
  c == '+' || c == '-'

def isDigit (c : Char) : Bool :=
  '0' ≤ c && c ≤ '9'

def isOctalDigit (c : Char) : Bool :=
  '0' ≤ c && c ≤ '7'

def isHexDigit (c : Char) : Bool :=
  isDigit c || 'a' ≤ c && c ≤ 'f' || 'A' ≤ c && c ≤ 'F'

def digitValue (c : Char) : Nat :=
  if isDigit c then c.toNat - '0'.toNat
  else if 'a' ≤ c then c.toNat - 'a'.toNat + 10
  else c.toNat - 'A'.toNat + 10

/-- The characters that are not underscores. -/
def digitsOf (text : List Char) : List Char :=
  text.filter (· != '_')

/-- The number of the digits in a base. -/
def natOfDigits (base : Nat) (text : List Char) : Nat :=
  (digitsOf text).foldl (fun number digit => base * number + digitValue digit) 0

/-- Whether all characters are digits of a class or underscores. -/
def areDigits (digit : Char → Bool) (text : List Char) : Bool :=
  text.all fun c => digit c || c == '_'

/-- Whether a text is a digit followed by digits and underscores. -/
def startsWithDigit (text : List Char) : Bool :=
  (text.head?.elim false isDigit) && areDigits isDigit text

end Connexive.Yaml
