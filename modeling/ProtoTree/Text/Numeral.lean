/-! # Numbers as text

Reading whole numbers and booleans from settings, and writing durations.
-/

namespace ProtoTree

/-- Why a text is no whole number. -/
inductive NumeralError where
  | empty
  | invalidDigit
  | tooLarge
  deriving DecidableEq, Repr

/-- The wording of a failed reading. -/
def NumeralError.message : NumeralError → String
  | empty => "cannot parse integer from empty string"
  | invalidDigit => "invalid digit found in string"
  | tooLarge => "number too large to fit in target type"

namespace Text

/-- The largest number that settings hold. -/
def largestNumber : Nat := 18446744073709551615

/-- Reads digits onto `value`; the first fault from the left is the one reported. -/
def readDigits (value : Nat) : List Char → Except NumeralError Nat
  | [] => .ok value
  | c :: rest =>
    if !c.isDigit then .error .invalidDigit
    else
      let next := value * 10 + (c.toNat - '0'.toNat)
      if next > largestNumber then .error .tooLarge else readDigits next rest

/-- The number a text stands for: decimal digits, with an optional `+`. -/
def readNumber (text : String) : Except NumeralError Nat :=
  match text.toList with
  | [] => .error .empty
  | ['+'] => .error .invalidDigit
  | '+' :: digits => readDigits 0 digits
  | digits => readDigits 0 digits

/-- The truth value a text stands for. -/
def readBool? (text : String) : Option Bool :=
  if text = "true" then some true
  else if text = "false" then some false
  else none

/-- `digits` with zeros in front, up to `width` of them in all. -/
def padLeft (width : Nat) (digits : List Char) : List Char :=
  List.replicate (width - digits.length) '0' ++ digits

/-- A fraction of `10 ^ places` parts, written after its point without trailing zeros. -/
def fraction (places part : Nat) : String :=
  let digits := ((padLeft places (Nat.toDigits 10 part)).reverse.dropWhile (· == '0')).reverse
  if digits.isEmpty then "" else "." ++ String.ofList digits

end Text

/-- A span of time. -/
structure Duration where
  secs : Nat
  nanos : Nat := 0
  deriving DecidableEq, Repr, Inhabited

namespace Duration

def zero : Duration := ⟨0, 0⟩

/-- A span of seconds and any number of nanoseconds, unless it is longer than the longest span there is. -/
def ofParts? (secs nanos : Nat) : Option Duration :=
  let whole := secs + nanos / 1000000000
  if whole ≤ Text.largestNumber then some ⟨whole, nanos % 1000000000⟩ else none

/-- A span of whole milliseconds. -/
def ofMillis (ms : Nat) : Duration := ⟨ms / 1000, ms % 1000 * 1000000⟩

/-- A span in whole milliseconds, rounded down. -/
def toMillis (d : Duration) : Nat := d.secs * 1000 + d.nanos / 1000000

/-- A span written in the largest unit that fits it once, with as many decimals as it needs. -/
def text (d : Duration) : String :=
  if d.secs > 0 then toString d.secs ++ Text.fraction 9 d.nanos ++ "s"
  else if d.nanos ≥ 1000000 then
    toString (d.nanos / 1000000) ++ Text.fraction 6 (d.nanos % 1000000) ++ "ms"
  else if d.nanos ≥ 1000 then
    toString (d.nanos / 1000) ++ Text.fraction 3 (d.nanos % 1000) ++ "µs"
  else toString d.nanos ++ "ns"

end Duration

end ProtoTree
