import ProtoTree.Shell.Print
import ProtoTree.Shell.Utility.Basic

/-! # Printing words and numbers

Utilities that print their arguments, again and again or by a format, and
series of numbers.
-/

namespace ProtoTree.Shell.Utility

open Text (Octets)

/-! ## Words -/

/-- Up to so many digits of a base as a byte, and the rest. -/
def byteOf (base limit : Nat) (isDigit : Char → Bool) (cs : Octets) : Char × Octets :=
  let digits := (cs.take limit).takeWhile isDigit
  (Print.byte (Digits.valueIn base digits), cs.drop digits.length)

/-- What `echo` makes of escapes, up to one that ends the output; the second result tells whether there was one. -/
def echoEscapes (fuel : Nat) (cs : Octets) : Octets × Bool :=
  match fuel, cs with
  | 0, _ | _, [] => ([], false)
  | fuel + 1, c :: rest =>
    let followed (text : Octets) (rest : Octets) : Octets × Bool :=
      let (more, stopped) := echoEscapes fuel rest
      (text ++ more, stopped)
    if c != '\\' then followed [c] rest
    else
      match rest with
      | [] => (['\\'], false)
      | 'c' :: _ => ([], true)
      | 'x' :: after =>
        if after.head?.any Digits.isHex then
          let (b, after) := byteOf 16 2 Digits.isHex after
          followed [b] after
        else followed ['\\', 'x'] after
      | '0' :: after =>
        let (b, after) := byteOf 8 3 Digits.isOctal after
        followed [b] after
      | e :: after =>
        match Print.controlEscapes.lookup e with
        | some b => followed [b] after
        | none =>
          if Digits.isOctal e then
            let (b, after) := byteOf 8 3 Digits.isOctal rest
            followed [b] after
          else followed ['\\', e] after

/-- The options in front of the words of `echo`: whether the line ends, whether escapes count, and the words. -/
def echoOptions (ends escapes : Bool) : List Octets → Bool × Bool × List Octets
  | ('-' :: c :: letters) :: rest =>
    if (c :: letters).all "neE".toList.contains then
      let last := ((c :: letters).filter (· != 'n')).getLast?
      echoOptions (ends && !(c :: letters).contains 'n') (last.elim escapes (· == 'e')) rest
    else (ends, escapes, ('-' :: c :: letters) :: rest)
  | words => (ends, escapes, words)

/-- Prints its arguments. -/
def echo (s : State) (args : List Octets) : State :=
  let (ends, escapes, words) := echoOptions true false args
  let text := [' '].intercalate words
  let (text, stopped) := if escapes then echoEscapes text.length.succ text else (text, false)
  put (s.withStatus 0) (text ++ if ends && !stopped then ['\n'] else [])

/-- How often a line that comes without an end is printed. -/
def abundance : Nat := 65536

/-- Prints a line without an end. Only so much of it is needed as something reads. -/
def yes (s : State) (args : List Octets) : State :=
  let args := if args.head? = some ['-', '-'] then args.tail else args
  let line := (if args.isEmpty then ['y'] else [' '].intercalate args) ++ ['\n']
  (put s (List.replicate abundance line).flatten).withFlow .endless

/-! ## Formats -/

/-- What printing by a format has come to. -/
structure Formatting where
  /-- What is printed, the latest first. -/
  pieces : List Octets := []
  args : List Octets
  used : Bool := false
  /-- What is wrong with arguments, the latest first. -/
  faults : List String := []
  /-- What ends the printing, if it is a fault. -/
  broken : Option String := none
  stopped : Bool := false

namespace Formatting

def add (f : Formatting) (text : Octets) : Formatting := { f with pieces := text :: f.pieces }

def takeArg (f : Formatting) : Octets × Formatting :=
  match f.args with
  | [] => ([], f)
  | arg :: rest => (arg, { f with args := rest, used := true })

def addFault (f : Formatting) (text : String) : Formatting := { f with faults := text :: f.faults }

/-- Complains about an argument that is not used up or out of range. -/
def checked (f : Formatting) (arg rest : Octets) (outOfRange : Bool) : Formatting :=
  if outOfRange then f.addFault s!"{cited arg}: Numerical result out of range"
  else if rest.isEmpty then f
  else if rest.length = arg.length then f.addFault s!"{cited arg}: expected a numeric value"
  else f.addFault s!"{cited arg}: value not completely converted"

/-- The number of the character behind a quotation mark, with a warning about more characters. -/
def quotedCode? (f : Formatting) (arg : Octets) : Option (Nat × Formatting) :=
  match arg with
  | q :: c :: rest =>
    if q == '\'' || q == '"' then
      let warned :=
        if rest.isEmpty then f
        else f.addFault
          s!"warning: {String.ofList rest}: character(s) following character constant have been ignored"
      some (c.toNat, warned)
    else none
  | _ => none

/-- The next argument as a number, with a sign or as the bits of one without. -/
def takeNumber (f : Formatting) (signed : Bool) : Int × Formatting :=
  if f.args.isEmpty then (0, f)
  else
    let (arg, f) := f.takeArg
    match f.quotedCode? arg with
    | some (code, f) => ((code : Int), f)
    | none =>
      match Arithmetic.readPrefix? arg with
      | none => (0, if arg.isEmpty then f else f.checked arg arg false)
      | some (n, rest) =>
        let tooLarge := if signed then Arithmetic.clamp n ≠ n else 2 * Arithmetic.half ≤ n.natAbs
        let m := if signed then Arithmetic.clamp n
          else if tooLarge then 2 * Arithmetic.half - 1
          else n.emod (2 * Arithmetic.half)
        (m, f.checked arg rest tooLarge)

/-- The next argument as a floating number. -/
def takeFloating (f : Formatting) : Floating × Formatting :=
  if f.args.isEmpty then (.zero, f)
  else
    let (arg, f) := f.takeArg
    match f.quotedCode? arg with
    | some (code, f) => (.finite false code 0, f)
    | none =>
      match Floating.read? .extended arg with
      | none => (.zero, if arg.isEmpty then f else f.checked arg arg false)
      | some read => (read.number, f.checked arg read.rest read.outOfRange)

/-- The character of an escape behind its backslash, and the rest; in arguments, octal numbers may start with a zero
    of their own. Nothing comes of an escape that ends the output. -/
def escape (f : Formatting) (ofArgument : Bool) (cs : Octets) : Formatting × Octets × Octets :=
  match cs with
  | [] => (f, ['\\'], [])
  | 'x' :: rest =>
    if rest.head?.any Digits.isHex then
      let (b, rest) := byteOf 16 2 Digits.isHex rest
      (f, [b], rest)
    else ({ f with broken := some "missing hexadecimal number in escape", stopped := true }, [], rest)
  | 'c' :: _ => ({ f with stopped := true }, [], [])
  | '0' :: rest =>
    let (b, rest) := if ofArgument then byteOf 8 3 Digits.isOctal rest else byteOf 8 3 Digits.isOctal cs
    (f, [b], rest)
  | c :: rest =>
    if c == '"' then (f, ['"'], rest)
    else
      match Print.controlEscapes.lookup c with
      | some b => (f, [b], rest)
      | none =>
        if Digits.isOctal c then
          let (b, rest) := byteOf 8 3 Digits.isOctal cs
          (f, [b], rest)
        else if c == 'u' || c == 'U' then
          let wanted := if c == 'u' then 4 else 8
          let digits := rest.take wanted
          if digits.length < wanted || !digits.all Digits.isHex then
            ({ f with broken := some "missing hexadecimal number in escape", stopped := true }, [], rest)
          else
            let n := Digits.valueIn 16 digits
            let text := if n < 128 then [Char.ofNat n]
              else '\\' :: c :: digits.map Char.toUpper
            (f, text, rest.drop wanted)
        else (f, ['\\', c], rest)

/-- An argument with its escapes replaced. -/
def unescaped (fuel : Nat) (f : Formatting) (cs : Octets) : Formatting × Octets :=
  match fuel, cs with
  | 0, _ | _, [] => (f, [])
  | fuel + 1, '\\' :: rest =>
    let (f, text, rest) := f.escape true rest
    if f.stopped then (f, text)
    else
      let (f, more) := unescaped fuel f rest
      (f, text ++ more)
  | fuel + 1, c :: rest =>
    let (f, more) := unescaped fuel f rest
    (f, c :: more)

/-- Carries out a conversion; `text` is how it is written. -/
def convert (f : Formatting) (l : Print.Layout) (conversion : Char) (text : Octets) : Formatting :=
  match conversion with
  | 's' =>
    let (arg, f) := f.takeArg
    f.add (l.fitted arg)
  | 'b' =>
    let (arg, f) := f.takeArg
    let (f, text) := f.unescaped arg.length.succ arg
    f.add text
  | 'q' =>
    let (arg, f) := f.takeArg
    f.add (shownName arg).toList
  | 'c' =>
    let none_ := f.args.isEmpty
    let (arg, f) := f.takeArg
    f.add (l.fill (if none_ then ['\x00'] else [(arg.head?).getD '\x00']))
  | c =>
    if c == 'd' || c == 'i' then
      let (n, f) := f.takeNumber true
      f.add (l.integer n)
    else if "ouxX".toList.contains c then
      let (n, f) := f.takeNumber false
      f.add (l.natural c n.toNat)
    else if "aAeEfFgG".toList.contains c then
      let (n, f) := f.takeFloating
      f.add (l.floating .extended c n)
    else { f with broken := some (String.ofList text ++ ": invalid conversion specification"), stopped := true }

/-- A number in a format, or the next argument in place of `*`, and the rest of the format. -/
def takeCount (f : Formatting) (format : Octets) : Option Int × Formatting × Octets :=
  match format with
  | '*' :: rest =>
    let (n, f) := f.takeNumber true
    (some n, f, rest)
  | format =>
    let digits := format.takeWhile Char.isDigit
    (if digits.isEmpty then none else some (Digits.value digits : Int), f, format.drop digits.length)

/-- Carries out the conversion that a format goes on with after its `%`; gives the rest of the format. -/
def directive (f : Formatting) (format : Octets) : Formatting × Octets :=
  let flags := format.takeWhile "-+ #0'I".toList.contains
  let (width, f, rest) := f.takeCount (format.drop flags.length)
  let (precision, f, rest) := match rest with
    | '.' :: rest =>
      let (n, f, rest) := f.takeCount rest
      (some (n.getD 0), f, rest)
    | rest => (none, f, rest)
  let rest := rest.dropWhile "hlLjtz".toList.contains
  let width := width.getD 0
  let flags := if width < 0 then '-' :: flags else flags
  let precision := (precision.filter (0 ≤ ·)).map Int.toNat
  let text (rest : Octets) : Octets := '%' :: format.take (format.length - rest.length)
  match rest with
  | [] =>
    ({ f with broken := some (String.ofList (text []) ++ ": invalid conversion specification"), stopped := true }, [])
  | conversion :: rest => (f.convert ⟨flags, width.natAbs, precision⟩ conversion (text rest), rest)

/-- Goes through the format once. -/
def pass (fuel : Nat) (f : Formatting) (format : Octets) : Formatting :=
  match fuel, format with
  | 0, _ | _, [] => f
  | fuel + 1, '\\' :: rest =>
    let (f, text, rest) := f.escape false rest
    let f := f.add text
    if f.stopped then f else pass fuel f rest
  | fuel + 1, '%' :: '%' :: rest => pass fuel (f.add ['%']) rest
  | fuel + 1, '%' :: rest =>
    let (f, rest) := f.directive rest
    if f.stopped then f else pass fuel f rest
  | fuel + 1, c :: rest =>
    let more := rest.takeWhile fun c => c != '%' && c != '\\'
    pass fuel (f.add (c :: more)) (rest.drop more.length)

/-- Goes through the format until the arguments are used up. -/
def passes (rounds : Nat) (f : Formatting) (format : Octets) : Formatting :=
  match rounds with
  | 0 => f
  | rounds + 1 =>
    let f := pass format.length.succ { f with used := false } format
    if f.args.isEmpty || !f.used || f.stopped then f else passes rounds f format

end Formatting

/-- Prints arguments by a format. -/
def printf (s : State) (args : List Octets) : State :=
  let args := if args.head? = some ['-', '-'] then args.tail else args
  match args with
  | [] => misused s "missing operand"
  | format :: args =>
    let done := Formatting.passes args.length.succ { args } format
    let s := put (s.withStatus 0) done.pieces.reverse.flatten
    let s := done.faults.reverse.foldl (fun s fault =>
      if fault.startsWith "warning" then tell s fault else failed s 1 fault) s
    match done.broken with
    | some text => failed s 1 text
    | none =>
      if done.stopped then s
      else
        match done.args with
        | extra :: _ => tell s s!"warning: ignoring excess arguments, starting with {cited extra}"
        | [] => s

/-! ## Series of numbers -/

/-- A number with decimals, as it is written in a series: its digits without the point, how many of them are behind
    the point, and how wide it is. -/
structure SeriesNumber where
  mantissa : Int
  places : Nat
  width : Nat
  endless : Bool := false
  deriving Repr, Inhabited

namespace SeriesNumber

/-- The number that a text is. -/
def ofText? (text : Octets) : Option SeriesNumber :=
  let text := text.dropWhile fun c => isBlank c || c == '+'
  let (negative, body) := match text with
    | '-' :: body => (true, body)
    | body => (false, body)
  let sign : Int := if negative then -1 else 1
  let lower := String.ofList (body.map Char.toLower)
  if lower = "inf" || lower = "infinity" then some ⟨sign, 0, text.length, true⟩
  else
    match body with
    | '0' :: x :: digits =>
      if (x == 'x' || x == 'X') && !digits.isEmpty && digits.all Digits.isHex then
        some ⟨sign * (Digits.valueIn 16 digits : Int), 0, text.length, false⟩
      else decimal? sign text body
    | body => decimal? sign text body
where
  decimal? (sign : Int) (text body : Octets) : Option SeriesNumber :=
    let (whole, parts, rest) := Floating.digitsAt Char.isDigit body
    let hasPoint := body.contains '.'
    let (power, after) := Floating.exponentAt 'e' 'E' rest
    if (whole.isEmpty && parts.isEmpty) || !after.isEmpty then none
    else
      let mantissa := sign * (Digits.value (whole ++ parts) : Int)
      let scale : Int := parts.length - power
      let pointWidth : Int := if !hasPoint then 0 else if parts.isEmpty then -1 else if whole.isEmpty then 1 else 0
      let width : Int := (text.length - rest.length : Int) + pointWidth
      let width := if power = 0 then width
        else if power < 0 then width + (-power) + (if hasPoint && !parts.isEmpty then 0 else 1)
        else
          width - (if hasPoint && !parts.isEmpty && (parts.length : Int) ≤ power then 1 else 0)
            + (power - min (parts.length : Int) power)
      if 0 ≤ scale then some ⟨mantissa, scale.toNat, width.toNat, false⟩
      else some ⟨mantissa * Nat.pow 10 (min (-scale).toNat 400), 0, width.toNat, false⟩

/-- The mantissa with other decimals. -/
def scaled (n : SeriesNumber) (places : Nat) : Int := n.mantissa * Nat.pow 10 (places - n.places)

end SeriesNumber

/-- A number with its point, filled up with zeros. -/
def pointed (width places : Nat) (n : Int) : Octets :=
  let digits := Digits.ofNat n.natAbs
  let digits := List.replicate (places + 1 - digits.length) '0' ++ digits
  let text := digits.take (digits.length - places)
    ++ if places = 0 then [] else '.' :: digits.drop (digits.length - places)
  let sign : Octets := if n < 0 then ['-'] else []
  sign ++ List.replicate (width - sign.length - text.length) '0' ++ text

/-- The text in front of the only conversion of a format, its layout and letter, and the text behind; or what is
    wrong with the format. -/
def seriesFormat (format : Octets) : Except String (Octets × Print.Layout × Char × Octets) :=
  let plain (fuel : Nat) (cs : Octets) : Octets × Octets :=
    let rec go (fuel : Nat) (before : Octets) (cs : Octets) : Octets × Octets :=
      match fuel, cs with
      | fuel + 1, '%' :: '%' :: rest => go fuel ('%' :: before) rest
      | _, '%' :: rest => (before.reverse, '%' :: rest)
      | fuel + 1, c :: rest => go fuel (c :: before) rest
      | _, cs => (before.reverse, cs)
    go fuel [] cs
  let (before, rest) := plain format.length.succ format
  match rest with
  | [] => .error s!"format {cited format} has no % directive"
  | _ :: rest =>
    let flags := rest.takeWhile "-+#0 '".toList.contains
    let rest := rest.drop flags.length
    let width := rest.takeWhile Char.isDigit
    let rest := rest.drop width.length
    let (precision, rest) := match rest with
      | '.' :: rest => (some (Digits.value (rest.takeWhile Char.isDigit)), rest.dropWhile Char.isDigit)
      | rest => (none, rest)
    let rest := if rest.head? = some 'L' then rest.tail else rest
    match rest with
    | [] => .error s!"format {cited format} ends in %"
    | letter :: rest =>
      if !"efgaEFGA".toList.contains letter then
        .error s!"format {cited format} has unknown %{String.ofList [letter]} directive"
      else
        let (after, left) := plain rest.length.succ rest
        if left.isEmpty then .ok (before, ⟨flags, Digits.value width, precision⟩, letter, after)
        else .error s!"format {cited format} has too many % directives"

/-- Prints the numbers from a first to a last one. -/
def seq (s : State) (args : List Octets) : State :=
  let forms : List OptionForm :=
    [.valued 'f' "format", .valued 's' "separator", .plain 'w' "equal-width"]
  let isNumber (arg : Octets) : Bool :=
    match arg with
    | '-' :: c :: _ => c.isDigit || c == '.'
    | _ => false
  let options := args.takeWhile fun arg => !isNumber arg
  let startsNumbers := match Asked.ofArgs forms false options with
    | .ok a => a.operands.isEmpty
    | .error _ => false
  let args := if startsNumbers then options ++ ['-', '-'] :: args.drop options.length else args
  withLeadingArgs s 1 forms args fun a =>
    match a.operands with
    | [] => misused s "missing operand"
    | _ :: _ :: _ :: extra :: _ => misused s s!"extra operand {cited extra}"
    | operands =>
      match operands.find? fun arg => (SeriesNumber.ofText? arg).isNone with
      | some bad => misused s s!"invalid floating point argument: {cited bad}"
      | none =>
        let one : SeriesNumber := ⟨1, 0, 1, false⟩
        let (first, step, last) := match operands.filterMap SeriesNumber.ofText? with
          | [first, last] => (first, one, last)
          | [first, step, last] => (first, step, last)
          | numbers => (one, one, numbers.headD one)
        if step.mantissa = 0 then
          misused s s!"invalid Zero increment value: {cited ((operands[1]?).getD [])}"
        else
          let format := (a.value? "f").map seriesFormat
          match format with
          | some (.error reason) => failed s 1 reason
          | _ =>
            if format.isSome && a.has "w" then
              misused s "format string may not be specified when printing equal width strings"
            else
              let places := max (max first.places step.places) last.places
              let shownPlaces := max first.places step.places
              let from_ := first.scaled places
              let by_ := step.scaled places
              let to_ := last.scaled places
              let count : Nat :=
                if last.endless then if (0 < last.mantissa) == decide (0 < by_) then abundance else 0
                else if 0 < by_ then ((to_ - from_).fdiv by_ + 1).toNat
                else ((from_ - to_).fdiv (-by_) + 1).toNat
              let firstWidth := first.width + (shownPlaces - first.places)
                + if first.places = 0 && shownPlaces ≠ 0 then 1 else 0
              let lastWidth := last.width + shownPlaces - last.places
                + (if last.places = 0 && shownPlaces ≠ 0 then 1 else 0)
                - if last.places ≠ 0 && shownPlaces = 0 then 1 else 0
              let width := if a.has "w" then max firstWidth lastWidth else 0
              let shown (n : Int) : Octets :=
                match format with
                | some (.ok (before, l, letter, after)) =>
                  let number := (Floating.nearest .extended (n < 0) n.natAbs (Nat.pow 10 places)).1
                  before ++ l.floating .extended letter number ++ after
                | _ => pointed width shownPlaces (n.tdiv (Nat.pow 10 (places - shownPlaces)))
              let texts := (List.range count).map fun i : Nat => shown (from_ + by_ * (i : Int))
              let between := (a.value? "s").getD ['\n']
              let done := if texts.isEmpty then s.withStatus 0
                else put (s.withStatus 0) (between.intercalate texts ++ ['\n'])
              if last.endless && count ≠ 0 then done.withFlow .endless else done

end ProtoTree.Shell.Utility
