import ProtoTree.Text.Octets

/-! # Names and numbers of scripts

Which characters make names, and what digits stand for.
-/

namespace ProtoTree.Shell

open Text (Octets)

namespace Name

def isStart (c : Char) : Bool := c.isAlpha || c == '_'

def isPart (c : Char) : Bool := c.isAlphanum || c == '_'

/-- Whether the characters are a name. -/
def isName : Octets → Bool
  | c :: rest => isStart c && rest.all isPart
  | [] => false

/-- The name at the start of some text. -/
def leading (cs : Octets) : Octets := if cs.head?.any isStart then cs.takeWhile isPart else []

/-- Names of parameters that are a single character. -/
def isSpecial (c : Char) : Bool :=
  c.isDigit || c == '@' || c == '*' || c == '#' || c == '?' || c == '$' || c == '!' || c == '-'

end Name

namespace Digits

def isOctal (c : Char) : Bool := '0' ≤ c && c ≤ '7'

def isHex (c : Char) : Bool := c.isDigit || ('a' ≤ c && c ≤ 'f') || ('A' ≤ c && c ≤ 'F')

def digitValue (c : Char) : Nat :=
  if c.isDigit then c.toNat - '0'.toNat
  else if 'a' ≤ c && c ≤ 'z' then c.toNat - 'a'.toNat + 10
  else c.toNat - 'A'.toNat + 10

/-- The number that digits of a base stand for. -/
def valueIn (base : Nat) (digits : Octets) : Nat :=
  digits.foldl (fun n c => n * base + digitValue c) 0

/-- The number that decimal digits stand for. -/
def value (digits : Octets) : Nat := valueIn 10 digits

/-- The number at the start of some text that starts with a digit, decimal, or octal, hexadecimal or binary by its
    first digits; and the rest. -/
def numberAt (cs : Octets) : Nat × Octets :=
  let inBase (base : Nat) (isDigit : Char → Bool) (digits : Octets) : Nat × Octets :=
    (valueIn base (digits.takeWhile isDigit), digits.dropWhile isDigit)
  let isBinary (c : Char) : Bool := c == '0' || c == '1'
  match cs with
  | '0' :: x :: rest =>
    if (x == 'x' || x == 'X') && rest.head?.any isHex then inBase 16 isHex rest
    else if (x == 'b' || x == 'B') && rest.head?.any isBinary then inBase 2 isBinary rest
    else inBase 8 isOctal (x :: rest)
  | cs => inBase 10 Char.isDigit cs

/-- Whether some text is decimal digits and nothing else. -/
def isNumber (cs : Octets) : Bool := !cs.isEmpty && cs.all Char.isDigit

/-- A number in decimal digits. -/
def ofNat (n : Nat) : Octets := Nat.toDigits 10 n

def ofInt (n : Int) : Octets := if n < 0 then '-' :: ofNat n.natAbs else ofNat n.natAbs

end Digits

def isBlank (c : Char) : Bool := c == ' ' || ('\t' ≤ c && c ≤ '\r')

/-- The text without some characters at its end. -/
def dropEnd (p : Char → Bool) (cs : Octets) : Octets := (cs.reverse.dropWhile p).reverse

end ProtoTree.Shell
