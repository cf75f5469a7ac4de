import ProtoTree.Shell.Arithmetic

/-! # Floating numbers

Binary numbers with a mantissa of so many bits: the one that is nearest to a
text, and the text of one. All of it is exact but for the one rounding that the
number of bits or of digits asks for, half to even.
-/

namespace ProtoTree.Shell

open Text (Octets)

/-- How many bits a mantissa has, the exponent of its least unit, and the power of two that is too large. -/
structure FloatingKind where
  bits : Nat
  least : Int
  limit : Int
  /-- How many bits stand before the point in hexadecimal. -/
  leadBits : Nat

namespace FloatingKind

/-- Numbers of 64 bits. -/
def double : FloatingKind := ⟨53, -1074, 1024, 1⟩

/-- Numbers of 80 bits. -/
def extended : FloatingKind := ⟨64, -16445, 16384, 4⟩

end FloatingKind

/-- A floating number. -/
inductive Floating where
  /-- A mantissa times a power of two. -/
  | finite (negative : Bool) (mantissa : Nat) (exponent : Int)
  | infinite (negative : Bool)
  | undefined (negative : Bool)
  deriving DecidableEq, Repr, Inhabited

/-- A number that was read. -/
structure FloatingRead where
  number : Floating
  /-- The number is too large, or too small to be exact. -/
  outOfRange : Bool
  rest : Octets
  deriving Repr, Inhabited

namespace Floating

def zero : Floating := .finite false 0 0

def isNegative : Floating → Bool
  | finite negative .. | infinite negative | undefined negative => negative

/-- A quotient to the nearest natural number, half to even. -/
def rounded (numerator denominator : Nat) : Nat :=
  let q := numerator / denominator
  let twice := 2 * (numerator % denominator)
  if denominator < twice || (twice == denominator && q % 2 == 1) then q + 1 else q

/-- The floating number nearest to a quotient, and whether it is out of range. -/
def nearest (kind : FloatingKind) (negative : Bool) (numerator denominator : Nat) : Floating × Bool :=
  if numerator = 0 then (.finite negative 0 0, false)
  else
    let guess : Int := (numerator.log2 : Int) - denominator.log2 - kind.bits
    let scaled (e : Int) : Nat × Nat :=
      if 0 ≤ e then (numerator, denominator * Nat.pow 2 e.toNat) else (numerator * Nat.pow 2 (-e).toNat, denominator)
    let tooMany (e : Int) : Bool :=
      let (n, d) := scaled e
      d * Nat.pow 2 kind.bits ≤ n
    let e := if tooMany guess then guess + 1 else guess
    let e := max e kind.least
    let (n, d) := scaled e
    let m := rounded n d
    let tiny := m < Nat.pow 2 (kind.bits - 1) && n % d ≠ 0
    if kind.limit < e + (m.log2 : Int) + 1 then (.infinite negative, true)
    else (.finite negative m e, tiny)

/-- The number of digits from which on an exponent makes any number too large or too small. -/
def exponentLimit : Nat := 20000

/-- Digits with a point among them: those before it, those behind it, and the rest. -/
def digitsAt (isDigit : Char → Bool) (cs : Octets) : Octets × Octets × Octets :=
  let whole := cs.takeWhile isDigit
  match cs.drop whole.length with
  | '.' :: rest =>
    let parts := rest.takeWhile isDigit
    if whole.isEmpty && parts.isEmpty then ([], [], cs) else (whole, parts, rest.drop parts.length)
  | rest => (whole, [], rest)

/-- An exponent behind one of two letters, and the rest. -/
def exponentAt (small large : Char) (cs : Octets) : Int × Octets :=
  match cs with
  | c :: rest =>
    let (sign, digits) := Arithmetic.takeSign rest
    let own := digits.takeWhile Char.isDigit
    if (c == small || c == large) && !own.isEmpty then
      (sign * (Digits.value (own.dropWhile (· == '0')) : Int), digits.drop own.length)
    else (0, cs)
  | [] => (0, [])

/-- The number that a text starts with; none when it starts with none. -/
def read? (kind : FloatingKind) (cs : Octets) : Option FloatingRead :=
  let (sign, text) := Arithmetic.takeSign (cs.dropWhile isBlank)
  let negative := sign < 0
  let startsWith (word : String) : Bool :=
    ((text.take word.length).map Char.toLower) = word.toList
  let power (base : Nat) (mantissa : Nat) (exponent : Int) (rest : Octets) : FloatingRead :=
    let exponent := max (-(exponentLimit : Int)) (min exponent exponentLimit)
    let (number, outOfRange) :=
      if 0 ≤ exponent then nearest kind negative (mantissa * Nat.pow base exponent.toNat) 1
      else nearest kind negative mantissa (Nat.pow base (-exponent).toNat)
    ⟨number, outOfRange, rest⟩
  let decimal : Option FloatingRead :=
    let (whole, parts, rest) := digitsAt Char.isDigit text
    if whole.isEmpty && parts.isEmpty then none
    else
      let (exponent, rest) := exponentAt 'e' 'E' rest
      some (power 10 (Digits.value (whole ++ parts)) (exponent - parts.length) rest)
  if startsWith "infinity" then some ⟨.infinite negative, false, text.drop 8⟩
  else if startsWith "inf" then some ⟨.infinite negative, false, text.drop 3⟩
  else if startsWith "nan" then
    let rest := text.drop 3
    let inside := rest.tail.takeWhile Name.isPart
    let closed := rest.head? = some '(' && (rest.tail.drop inside.length).head? = some ')'
    some ⟨.undefined negative, false, if closed then rest.drop (inside.length + 2) else rest⟩
  else
    match text with
    | '0' :: x :: after =>
      if x == 'x' || x == 'X' then
        let (whole, parts, rest) := digitsAt Digits.isHex after
        if whole.isEmpty && parts.isEmpty then decimal
        else
          let (exponent, rest) := exponentAt 'p' 'P' rest
          let digits := Digits.valueIn 16 (whole ++ parts)
          some (power 2 digits (exponent - 4 * parts.length) rest)
      else decimal
    | _ => decimal

/-! ## Text -/

/-- A mantissa and its exponent as digits and how many of them stand behind the point. -/
def decimal (mantissa : Nat) (exponent : Int) : Nat × Nat :=
  if 0 ≤ exponent then (mantissa * Nat.pow 2 exponent.toNat, 0)
  else (mantissa * Nat.pow 5 (-exponent).toNat, (-exponent).toNat)

/-- Decimal digits, so many of them at least. -/
def digits (atLeast n : Nat) : Octets :=
  let own := Digits.ofNat n
  List.replicate (atLeast - own.length) '0' ++ own

/-- Digits with a point in front of the last ones; `point` when it stands there even before none. -/
def withPoint (places : Nat) (point : Bool) (own : Octets) : Octets :=
  let behind := own.drop (own.length - places)
  own.take (own.length - places) ++ (if behind.isEmpty && !point then [] else '.' :: behind)

/-- A number in plain digits, so many of them behind the point. -/
def plain (places : Nat) (point : Bool) (mantissa : Nat) (exponent : Int) : Octets :=
  let (n, behind) := decimal mantissa exponent
  let n := if places ≤ behind then rounded n (Nat.pow 10 (behind - places)) else n * Nat.pow 10 (places - behind)
  withPoint places point (digits (places + 1) n)

/-- The first digits of a number, so many behind the first one, and the power of ten of the first one. -/
def leadingDigits (places mantissa : Nat) (exponent : Int) : Octets × Int :=
  if mantissa = 0 then (List.replicate (places + 1) '0', 0)
  else
    let (n, behind) := decimal mantissa exponent
    let length := (Digits.ofNat n).length
    let power : Int := (length : Int) - 1 - behind
    let n := if places + 1 ≤ length then rounded n (Nat.pow 10 (length - places - 1))
      else n * Nat.pow 10 (places + 1 - length)
    let own := Digits.ofNat n
    if places + 1 < own.length then (own.take (places + 1), power + 1) else (own, power)

/-- An exponent of ten behind its letter. -/
def shownPower (letter : Char) (power : Int) : Octets :=
  letter :: (if power < 0 then '-' else '+') :: digits 2 power.natAbs

/-- A number with an exponent of ten, so many digits behind the point. -/
def scientific (places : Nat) (point : Bool) (letter : Char) (mantissa : Nat) (exponent : Int) : Octets :=
  let (own, power) := leadingDigits places mantissa exponent
  withPoint places point own ++ shownPower letter power

/-- A number without what it can do without: zeros behind the point, and the point. -/
def withoutZeros (text : Octets) : Octets :=
  if text.contains '.' then dropEnd (· == '.') (dropEnd (· == '0') text) else text

/-- A number in so many digits, plain ones unless its exponent is small or large. -/
def general (count : Nat) (point : Bool) (letter : Char) (mantissa : Nat) (exponent : Int) : Octets :=
  let count := max count 1
  let (_, power) := leadingDigits (count - 1) mantissa exponent
  if -4 ≤ power && power < count then
    let text := plain ((count : Int) - 1 - power).toNat point mantissa exponent
    if point then text else withoutZeros text
  else
    let (own, power) := leadingDigits (count - 1) mantissa exponent
    let text := withPoint (count - 1) point own
    (if point then text else withoutZeros text) ++ shownPower letter power

/-- A hexadecimal digit. -/
def hexDigit (n : Nat) : Char := Nat.digitChar n

/-- A number in hexadecimal, with an exponent of two. -/
def hexadecimal (kind : FloatingKind) (places : Option Nat) (point : Bool) (mantissa : Nat) (exponent : Int) :
    Octets :=
  let behind := kind.bits - kind.leadBits
  let width := (behind + 3) / 4
  let missing : Int :=
    if mantissa = 0 then 0 else min (kind.bits - 1 - (mantissa.log2 : Int)) (exponent - kind.least)
  let shifted := mantissa * Nat.pow 2 missing.toNat * Nat.pow 2 (4 * width - behind)
  let power : Int := if mantissa = 0 then 0 else exponent - missing + behind
  let n := match places with
    | some p => if p < width then rounded shifted (Nat.pow 16 (width - p)) else shifted * Nat.pow 16 (p - width)
    | none => shifted
  let places' := places.getD width
  let own := Nat.toDigits 16 n
  let own := List.replicate (places' + 1 - own.length) '0' ++ own
  let parts := own.drop (own.length - places')
  let parts := if places.isNone then dropEnd (· == '0') parts else parts
  ['0', 'x'] ++ own.take (own.length - places') ++ (if parts.isEmpty && !point then [] else '.' :: parts)
    ++ 'p' :: (if power < 0 then '-' else '+') :: Digits.ofNat power.natAbs

/-- The text of a number without its sign, as a conversion of `printf` asks for it. -/
def shown (kind : FloatingKind) (conversion : Char) (precision : Option Nat) (point : Bool) :
    Floating → Octets
  | infinite _ => if conversion.isUpper then "INF".toList else "inf".toList
  | undefined _ => if conversion.isUpper then "NAN".toList else "nan".toList
  | finite _ mantissa exponent =>
    let places := precision.getD 6
    match conversion with
    | 'e' | 'E' => scientific places point conversion mantissa exponent
    | 'g' => general places point 'e' mantissa exponent
    | 'G' => general places point 'E' mantissa exponent
    | 'a' => hexadecimal kind precision point mantissa exponent
    | 'A' => (hexadecimal kind precision point mantissa exponent).map Char.toUpper
    | _ => plain places point mantissa exponent

/-- Whether a number has digits that zeros may be put in front of. -/
def isFinite : Floating → Bool
  | finite .. => true
  | _ => false

end Floating

end ProtoTree.Shell
