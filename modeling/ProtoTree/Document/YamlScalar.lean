/-! # YAML scalars

How a text is written as a YAML scalar: bare where nothing else could be
read, in quotes where it would read as a number, a truth value, null or
structure, and as a block where it spans lines.
-/

namespace ProtoTree.Document.YamlScalar

/-- Ways to write a scalar. -/
inductive Style where
  | plain
  | singleQuoted
  | doubleQuoted
  | literal
  deriving DecidableEq, Repr

/-! ## Texts that read as something else -/

def nullWords : List String := ["", "null", "Null", "NULL", "~"]

def truthWords : List String := ["true", "True", "TRUE", "false", "False", "FALSE"]

/-- A digit's value in bases up to sixteen. -/
def digitValue? (c : Char) : Option Nat :=
  if c.isDigit then some (c.toNat - '0'.toNat)
  else if 'a' ≤ c ∧ c ≤ 'f' then some (c.toNat - 'a'.toNat + 10)
  else if 'A' ≤ c ∧ c ≤ 'F' then some (c.toNat - 'A'.toNat + 10)
  else none

/-- The number that some digits stand for; no digits stand for none. -/
def digits? (base : Nat) (cs : List Char) : Option Nat :=
  if cs.isEmpty then none
  else cs.foldlM (fun value c => (digitValue? c).bind fun d =>
    if d < base then some (value * base + d) else none) 0

/-- Unsigned numbers have at most 128 bits. -/
def fitsUnsigned (n : Nat) : Bool := n < Nat.pow 2 128

/-- Negative numbers have at most 127 bits, and one more value. -/
def fitsNegative (n : Nat) : Bool := n ≤ Nat.pow 2 127

/-- A numeral with a base mark such as `0x`, if `cs` is one within `fits`. -/
def isBased (fits : Nat → Bool) (cs : List Char) : Bool :=
  match cs with
  | '0' :: 'x' :: rest => (digits? 16 rest).any fits
  | '0' :: 'o' :: rest => (digits? 8 rest).any fits
  | '0' :: 'b' :: rest => (digits? 2 rest).any fits
  | _ => false

/-- Digits after a zero, with an optional sign: no number, but too close to one to stay bare. -/
def hasLeadingZero (cs : List Char) : Bool :=
  let digits := match cs with
    | '-' :: rest | '+' :: rest => rest
    | cs => cs
  match digits with
  | '0' :: c :: rest => (c :: rest).all Char.isDigit
  | _ => false

/-- Whole numbers, in base ten or with a base mark. -/
def isInteger (cs : List Char) : Bool :=
  let unsigned := match cs with
    | '+' :: rest => rest
    | cs => cs
  isBased fitsUnsigned unsigned
    || (!hasLeadingZero cs && (digits? 10 unsigned).any fitsUnsigned)
    || match cs with
      | '-' :: rest =>
        isBased fitsNegative rest || (!hasLeadingZero cs && (digits? 10 rest).any fitsNegative)
      | _ => false

/-- The least value that is beyond every double-precision number once rounded. -/
def overflowBound : Nat := Nat.pow 2 1024 - Nat.pow 2 970

/-- Whether `mantissa * 10 ^ exponent` stays below the overflow bound. -/
def isFinite (mantissa : Nat) (exponent : Int) : Bool :=
  if mantissa = 0 then true
  else
    let magnitude := (Nat.toDigits 10 mantissa).length + exponent
    if magnitude > 320 then false
    else if magnitude < 300 then true
    else if exponent ≥ 0 then mantissa * Nat.pow 10 exponent.toNat < overflowBound
    else mantissa < overflowBound * Nat.pow 10 (-exponent).toNat

/-- The exponent that an `e` or `E` part stands for; no part stands for zero. -/
def exponent? (cs : List Char) : Option Int :=
  match cs with
  | [] => some 0
  | c :: rest =>
    if c = 'e' ∨ c = 'E' then
      match rest with
      | '-' :: ds => (digits? 10 ds).map fun n => -(n : Int)
      | '+' :: ds => (digits? 10 ds).map fun n => (n : Int)
      | ds => (digits? 10 ds).map fun n => (n : Int)
    else none

/-- Decimal numbers without a sign, with a point or an exponent or neither, that are not too large. -/
def isDecimal (cs : List Char) : Bool :=
  let whole := cs.takeWhile Char.isDigit
  let afterWhole := cs.dropWhile Char.isDigit
  let (part, rest) := match afterWhole with
    | '.' :: tail => (tail.takeWhile Char.isDigit, tail.dropWhile Char.isDigit)
    | tail => ([], tail)
  match digits? 10 (whole ++ part), exponent? rest with
  | some mantissa, some e => isFinite mantissa (e - part.length)
  | _, _ => false

def infinityWords : List String := [".inf", ".Inf", ".INF"]

def notNumberWords : List String := [".nan", ".NaN", ".NAN"]

/-- Fractional numbers, infinities and the mark for no number. -/
def isFloat (cs : List Char) : Bool :=
  let bare := match cs with
    | '+' :: rest => rest
    | '-' :: rest => rest
    | cs => cs
  infinityWords.any (·.toList == bare) || notNumberWords.any (·.toList == cs) || isDecimal bare

/-- Whether a bare text would not be read back as text. -/
def isAmbiguous (s : String) : Bool :=
  nullWords.contains s || truthWords.contains s || isInteger s.toList || hasLeadingZero s.toList
    || isFloat s.toList

/-! ## What the characters allow -/

/-- Characters that end a line. -/
def isBreak (c : Char) : Bool :=
  c == '\n' || c == '\r' || c == '\u0085' || c == '\u2028' || c == '\u2029'

/-- Characters that may stand unescaped. -/
def isPrintable (c : Char) : Bool :=
  c == '\n' || (0x20 ≤ c.toNat && c.toNat ≤ 0x7E) || (0xA0 ≤ c.toNat && c.toNat ≤ 0xD7FF)
    || (0xE000 ≤ c.toNat && c.toNat ≤ 0xFFFD && c.toNat != 0xFEFF) || 0x10000 ≤ c.toNat

/-- Blanks, breaks, and the character that stands for the end. -/
def isBlankOrEnd (c : Char) : Bool := c == ' ' || c == '\t' || c == '\x00' || isBreak c

/-- Whether what follows starts with a blank or is empty. -/
def blankNext : List Char → Bool
  | [] => true
  | c :: _ => isBlankOrEnd c

/-- Indicators that mean structure at the start of a scalar. -/
def startIndicators : List Char :=
  ['#', ',', '[', ']', '{', '}', '&', '*', '!', '|', '>', '\'', '"', '%', '@', '\u0060']

/-- Whether the first character means structure. -/
def startsStructure : List Char → Bool
  | [] => false
  | c :: rest =>
    startIndicators.contains c || ((c == '?' || c == ':' || c == '-') && blankNext rest)

/-- Whether a later character means structure: a colon before a blank, or a hash after one. -/
def holdsStructure (prev : Char) : List Char → Bool
  | [] => false
  | c :: rest =>
    (c == ':' && blankNext rest) || (c == '#' && isBlankOrEnd prev) || holdsStructure c rest

/-- Whether a document mark opens the text. -/
def opensDocument (cs : List Char) : Bool :=
  ['-', '-', '-'].isPrefixOf cs || ['.', '.', '.'].isPrefixOf cs

/-- Whether a character of the first kind stands right before one of the second. -/
def holdsPair (first second : Char → Bool) : List Char → Bool
  | a :: b :: rest => (first a && second b) || holdsPair first second (b :: rest)
  | _ => false

def isSpace (c : Char) : Bool := c == ' '

/-- Whether every character may stand unescaped. -/
def allPrintable (cs : List Char) : Bool := cs.all isPrintable

/-- Whether the text may stand bare. -/
def allowsPlain (cs : List Char) : Bool :=
  let edge (c : Option Char) := c.any fun c => isSpace c || isBreak c
  allPrintable cs && !cs.any isBreak && !edge cs.head? && !edge cs.getLast?
    && !opensDocument cs && !startsStructure cs
    && match cs with
      | [] => true
      | c :: rest => !holdsStructure c rest

/-- Whether the text may stand in single quotes. -/
def allowsSingleQuotes (cs : List Char) : Bool :=
  allPrintable cs && !holdsPair isBreak isSpace cs && !holdsPair isSpace isBreak cs

/-- Whether the text may stand as a block. -/
def allowsBlock (cs : List Char) : Bool :=
  allPrintable cs && !holdsPair isSpace isBreak cs && !cs.getLast?.any isSpace

/-- The style in which a text is written. -/
def style (s : String) : Style :=
  let cs := s.toList
  if cs.contains '\n' then
    if allowsBlock cs then .literal else .doubleQuoted
  else if !isAmbiguous s && allowsPlain cs then .plain
  else if allowsSingleQuotes cs then .singleQuoted
  else .doubleQuoted

/-! ## Writing -/

def spaces (n : Nat) : List Char := List.replicate n ' '

/-- Characters whose lines start at an indentation; `fresh` tells that a line was just ended. -/
def indentLines (indent : Nat) (write : Char → List Char) (fresh : Bool) : List Char → List Char
  | [] => []
  | c :: rest =>
    if isBreak c then c :: indentLines indent write true rest
    else (if fresh then spaces indent else []) ++ write c ++ indentLines indent write false rest

/-- Text in single quotes: a quote is written twice. -/
def singleQuoted (indent : Nat) (cs : List Char) : List Char :=
  let twice (c : Char) := if c = '\'' then ['\'', '\''] else [c]
  '\'' :: indentLines indent twice false cs
    ++ (if cs.getLast?.any isBreak then spaces indent else []) ++ ['\'']

/-- Upper-case hexadecimal digits, filled up with zeros. -/
def hex (width n : Nat) : List Char :=
  let digits := (Nat.toDigits 16 n).map Char.toUpper
  List.replicate (width - digits.length) '0' ++ digits

/-- One character inside double quotes. -/
def doubleQuotedChar (c : Char) : List Char :=
  match c with
  | '\x00' => ['\\', '0']
  | '\x07' => ['\\', 'a']
  | '\x08' => ['\\', 'b']
  | '\t' => ['\\', 't']
  | '\n' => ['\\', 'n']
  | '\x0b' => ['\\', 'v']
  | '\x0c' => ['\\', 'f']
  | '\r' => ['\\', 'r']
  | '\x1b' => ['\\', 'e']
  | '"' => ['\\', '"']
  | '\\' => ['\\', '\\']
  | '\u0085' => ['\\', 'N']
  | '\u2028' => ['\\', 'L']
  | '\u2029' => ['\\', 'P']
  | c =>
    if isPrintable c then [c]
    else if c.toNat ≤ 0xFF then ['\\', 'x'] ++ hex 2 c.toNat
    else if c.toNat ≤ 0xFFFF then ['\\', 'u'] ++ hex 4 c.toNat
    else ['\\', 'U'] ++ hex 8 c.toNat

/-- Text in double quotes. -/
def doubleQuoted (cs : List Char) : List Char := '"' :: cs.flatMap doubleQuotedChar ++ ['"']

/-- The marks after a block's bar: an indentation when the text starts with a blank, and what to do with the
    breaks at its end. -/
def blockMarks (cs : List Char) : List Char :=
  let indentation := if cs.head?.any fun c => isSpace c || isBreak c then ['2'] else []
  let ending :=
    match cs.reverse with
    | [] => ['-']
    | [c] => if isBreak c then ['+'] else ['-']
    | c :: b :: _ => if !isBreak c then ['-'] else if isBreak b then ['+'] else []
  indentation ++ ending

/-- Text as a block of lines. -/
def literalBlock (indent : Nat) (cs : List Char) : List Char :=
  '|' :: blockMarks cs ++ '\n' :: indentLines indent (fun c => [c]) true cs

/-- A text as a scalar whose further lines start at an indentation. -/
def render (indent : Nat) (s : String) : List Char :=
  match style s with
  | .plain => s.toList
  | .singleQuoted => singleQuoted indent s.toList
  | .doubleQuoted => doubleQuoted s.toList
  | .literal => literalBlock indent s.toList

end ProtoTree.Document.YamlScalar
