import ProtoTree.Shell.Floating
import ProtoTree.Shell.State

/-! # Printing commands

What `echo` and `printf` print.
-/

namespace ProtoTree.Shell.Print

open Text (Octets)

/-- The characters of a control escape. -/
def controlEscapes : List (Char × Char) :=
  [('a', '\x07'), ('b', '\x08'), ('e', '\x1b'), ('f', '\x0c'), ('n', '\n'), ('r', '\r'), ('t', '\t'),
    ('v', '\x0b'), ('\\', '\\')]

/-- The byte that a number comes down to. -/
def byte (n : Nat) : Char := Char.ofNat (n % 256)

/-- The byte of up to three octal digits, and the rest. -/
def octalByte (cs : Octets) : Char × Octets :=
  let digits := (cs.take 3).takeWhile Digits.isOctal
  (byte (Digits.valueIn 8 digits), cs.drop digits.length)

/-- The character of an escape after its backslash, and the rest; a backslash that escapes nothing stands for
    itself. -/
def escape (cs : Octets) : Char × Octets :=
  match cs with
  | [] => ('\\', [])
  | c :: rest =>
    match controlEscapes.lookup c with
    | some e => (e, rest)
    | none => if Digits.isOctal c then octalByte cs else ('\\', cs)

/-- A text with its escapes replaced, up to `\c`. Octal numbers may start with a zero of their own. The second
    result tells whether `\c` was met. -/
def unescape (fuel : Nat) (cs : Octets) : Octets × Bool :=
  match fuel, cs with
  | 0, _ | _, [] => ([], false)
  | fuel + 1, '\\' :: rest =>
    if rest.head? = some 'c' then ([], true)
    else
      let (c, rest) := if rest.head? = some '0' then octalByte rest.tail else escape rest
      let (more, stopped) := unescape fuel rest
      (c :: more, stopped)
  | fuel + 1, c :: rest =>
    let (more, stopped) := unescape fuel rest
    (c :: more, stopped)

/-- What `echo` prints. -/
def echo (args : List Octets) : Octets :=
  let (newline, words) := match args with
    | ['-', 'n'] :: words => (false, words)
    | words => (true, words)
  let text := [' '].intercalate words
  let (text, stopped) := unescape text.length.succ text
  text ++ if newline && !stopped then ['\n'] else []

/-- How a conversion of `printf` is laid out. -/
structure Layout where
  flags : Octets := []
  width : Nat := 0
  precision : Option Nat := none
  deriving Repr, Inhabited

namespace Layout

def isLeft (l : Layout) : Bool := l.flags.contains '-'

def has (l : Layout) (flag : Char) : Bool := l.flags.contains flag

/-- A text filled up to the width. -/
def fill (l : Layout) (text : Octets) : Octets :=
  let filling := List.replicate (l.width - text.length) ' '
  if l.isLeft then text ++ filling else filling ++ text

/-- A text cut off at the precision and filled up to the width. -/
def fitted (l : Layout) (text : Octets) : Octets := l.fill (text.take (l.precision.getD text.length))

/-- A text behind its sign, filled up to the width, with zeros in between if the layout asks for them. -/
def signed (l : Layout) (mayZero : Bool) (sign text : Octets) : Octets :=
  if l.has '0' && !l.isLeft && mayZero then
    sign ++ List.replicate (l.width - sign.length - text.length) '0' ++ text
  else l.fill (sign ++ text)

/-- The digits of a number behind its sign, filled up to the width. -/
def number (l : Layout) (sign digits : Octets) : Octets :=
  let least := l.precision.getD 1
  let digits := if least = 0 && digits = ['0'] then [] else digits
  l.signed l.precision.isNone sign (List.replicate (least - digits.length) '0' ++ digits)

/-- The sign of a number. -/
def sign (l : Layout) (negative : Bool) : Octets :=
  if negative then ['-']
  else if l.has '+' then ['+']
  else if l.has ' ' then [' ']
  else []

/-- A number with a sign. -/
def integer (l : Layout) (n : Int) : Octets := l.number (l.sign (n < 0)) (Digits.ofNat n.natAbs)

/-- A number without a sign, in the base that a conversion asks for. -/
def natural (l : Layout) (conversion : Char) (n : Nat) : Octets :=
  match conversion with
  | 'o' =>
    let digits := Nat.toDigits 8 n
    if l.has '#' && n ≠ 0 && l.precision.getD 1 ≤ digits.length then l.number [] ('0' :: digits)
    else if l.has '#' && n = 0 && l.precision = some 0 then l.fill ['0']
    else l.number [] digits
  | 'x' => l.number (if l.has '#' && n ≠ 0 then ['0', 'x'] else []) (Nat.toDigits 16 n)
  | 'X' => l.number (if l.has '#' && n ≠ 0 then ['0', 'X'] else []) ((Nat.toDigits 16 n).map Char.toUpper)
  | _ => l.number [] (Digits.ofNat n)

/-- A floating number. -/
def floating (l : Layout) (kind : FloatingKind) (conversion : Char) (n : Floating) : Octets :=
  l.signed n.isFinite (l.sign n.isNegative) (n.shown kind conversion l.precision (l.has '#'))

end Layout

/-- What `printf` has made of its arguments so far. -/
structure Printing where
  /-- What is printed, the latest first. -/
  pieces : List Octets := []
  args : List Octets
  /-- An argument was used. -/
  used : Bool := false
  /-- What is wrong with arguments, the latest first. -/
  faults : List String := []
  /-- What is wrong with the format. -/
  broken : Option String := none
  stopped : Bool := false
  deriving Repr, Inhabited

namespace Printing

def add (p : Printing) (text : Octets) : Printing := { p with pieces := text :: p.pieces }

def text (p : Printing) : Octets := p.pieces.reverse.flatten

/-- The next argument, if there is one. -/
def takeArg (p : Printing) : Option Octets × Printing :=
  match p.args with
  | [] => (none, p)
  | arg :: rest => (some arg, { p with args := rest, used := true })

def addFault (p : Printing) (arg : Octets) (reason : String) : Printing :=
  { p with faults := (String.ofList arg ++ ": " ++ reason) :: p.faults }

/-- Complains about an argument that is not used up or out of range. -/
def checked (p : Printing) (arg rest : Octets) (outOfRange : Bool) : Printing :=
  if !rest.isEmpty then
    p.addFault arg (if rest.length = arg.length then "expected numeric value" else "not completely converted")
  else if outOfRange then p.addFault arg "Numerical result out of range"
  else p

/-- The number of the character behind a quotation mark. -/
def quotedCode? : Octets → Option Nat
  | q :: rest => if q == '\'' || q == '"' then some ((rest.head?.map Char.toNat).getD 0) else none
  | [] => none

/-- The next argument as a number, with a sign or as the bits of one without. -/
def takeNumber (p : Printing) (signed : Bool) : Int × Printing :=
  match p.takeArg with
  | (none, p) => (0, p)
  | (some arg, p) =>
    match quotedCode? arg with
    | some code => ((code : Int), p)
    | none =>
      match Arithmetic.readPrefix? arg with
      | none => (0, p.checked arg arg false)
      | some (n, rest) =>
        let m := if signed then Arithmetic.clamp n
          else if 2 * Arithmetic.half ≤ n.natAbs then 2 * Arithmetic.half - 1
          else n.emod (2 * Arithmetic.half)
        (m, p.checked arg rest (if signed then m ≠ n else 2 * Arithmetic.half ≤ n.natAbs))

/-- The next argument as a floating number. -/
def takeFloating (p : Printing) : Floating × Printing :=
  match p.takeArg with
  | (none, p) => (.zero, p)
  | (some arg, p) =>
    match quotedCode? arg with
    | some code => (.finite false code 0, p)
    | none =>
      match Floating.read? .double arg with
      | none => (.zero, p.checked arg arg false)
      | some read => (read.number, p.checked arg read.rest read.outOfRange)

/-- Carries out a conversion; `directive` is the text of it. -/
def convert (p : Printing) (l : Layout) (conversion : Char) (directive : Octets) : Printing :=
  match conversion with
  | 's' =>
    let (arg, p) := p.takeArg
    p.add (l.fitted (arg.getD []))
  | 'b' =>
    let (arg, p) := p.takeArg
    let (text, stopped) := unescape (arg.getD []).length.succ (arg.getD [])
    { p.add (l.fitted text) with stopped }
  | 'c' =>
    let (arg, p) := p.takeArg
    p.add (l.fill [((arg.getD []).head?).getD '\x00'])
  | c =>
    if c == 'd' || c == 'i' then
      let (n, p) := p.takeNumber true
      p.add (l.integer n)
    else if "ouxX".toList.contains c then
      let (n, p) := p.takeNumber false
      p.add (l.natural c n.toNat)
    else if "aAeEfFgG".toList.contains c then
      let (n, p) := p.takeFloating
      p.add (l.floating .double c n)
    else { p with broken := some (String.ofList directive ++ ": invalid directive"), stopped := true }

/-- A number in a format, or the next argument in place of `*`, and the rest of the format. -/
def takeCount (p : Printing) (format : Octets) : Option Int × Printing × Octets :=
  match format with
  | '*' :: rest =>
    let (n, p) := p.takeNumber true
    (some n, p, rest)
  | format =>
    let digits := format.takeWhile Char.isDigit
    (if digits.isEmpty then none else some (Digits.value digits : Int), p, format.drop digits.length)

/-- Carries out the conversion that a format goes on with after its `%`; gives the rest of the format. -/
def directive (p : Printing) (format : Octets) : Printing × Octets :=
  let flags := format.takeWhile "-+ #0".toList.contains
  let (width, p, rest) := p.takeCount (format.drop flags.length)
  let (precision, p, rest) := match rest with
    | '.' :: rest =>
      let (n, p, rest) := p.takeCount rest
      (some (n.getD 0), p, rest)
    | rest => (none, p, rest)
  let width := width.getD 0
  let flags := if width < 0 then '-' :: flags else flags
  let precision := (precision.filter (0 ≤ ·)).map Int.toNat
  match rest with
  | [] => ({ p with broken := some "missing format character", stopped := true }, [])
  | conversion :: rest =>
    let text := '%' :: format.take (format.length - rest.length)
    (p.convert ⟨flags, width.natAbs, precision⟩ conversion text, rest)

/-- Goes through the format once. -/
def pass (fuel : Nat) (p : Printing) (format : Octets) : Printing :=
  match fuel, format with
  | 0, _ | _, [] => p
  | fuel + 1, '\\' :: rest =>
    let (c, rest) := escape rest
    pass fuel (p.add [c]) rest
  | fuel + 1, '%' :: '%' :: rest => pass fuel (p.add ['%']) rest
  | fuel + 1, '%' :: rest =>
    let (p, rest) := p.directive rest
    if p.stopped then p else pass fuel p rest
  | fuel + 1, c :: rest =>
    let more := rest.takeWhile fun c => c != '%' && c != '\\'
    pass fuel (p.add (c :: more)) (rest.drop more.length)

/-- Goes through the format until the arguments are used up. -/
def passes (rounds : Nat) (p : Printing) (format : Octets) : Printing :=
  match rounds with
  | 0 => p
  | rounds + 1 =>
    let p := pass format.length.succ p format
    if p.args.isEmpty || !p.used || p.stopped then p else passes rounds p format

end Printing

/-- Runs `printf` with the arguments behind its options. -/
def printf (s : State) (args : List Octets) : State :=
  match args with
  | [] => s.abort "usage: printf format [arg ...]"
  | format :: args =>
    let done := Printing.passes args.length.succ { args } format
    let s := s.print done.text
    let s := done.faults.reverse.foldl (fun s fault => s.fail 1 fault) s
    match done.broken with
    | some text => s.abort text
    | none => s

end ProtoTree.Shell.Print
