import ProtoTree.Shell.Utility.Reading

/-! # Bytes

Utilities that show bytes as numbers or characters, compare files byte by byte,
write bytes in letters, and break lines into rows.
-/

namespace ProtoTree.Shell.Utility

open Text (Bytes Octets)

/-! ## Bytes as numbers -/

/-- How a number is written. -/
inductive DumpKind where
  | named
  | character
  | signed
  | unsigned
  | octal
  | hexadecimal
  deriving DecidableEq, Repr, Inhabited

/-- One way to show bytes: so many of them at once, perhaps with all of them as text behind. -/
structure DumpFormat where
  kind : DumpKind
  size : Nat
  withText : Bool := false
  deriving Repr, Inhabited

namespace DumpFormat

/-- How wide a value is at most. -/
def width (f : DumpFormat) : Nat :=
  let of (widths : List Nat) : Nat := widths.getD f.size 0
  match f.kind with
  | .named | .character => 3
  | .signed => of [1, 4, 6, 8, 11, 13, 16, 18, 20]
  | .unsigned => of [0, 3, 5, 8, 10, 13, 15, 17, 20]
  | .octal => of [0, 3, 6, 8, 11, 14, 16, 19, 22]
  | .hexadecimal => 2 * f.size

/-- The names of the characters that cannot be seen. -/
def names : List String :=
  ["nul", "soh", "stx", "etx", "eot", "enq", "ack", "bel", "bs", "ht", "nl", "vt", "ff", "cr", "so", "si", "dle",
    "dc1", "dc2", "dc3", "dc4", "nak", "syn", "etb", "can", "em", "sub", "esc", "fs", "gs", "rs", "us", "sp"]

/-- Digits with zeros in front. -/
def withZeros (width base n : Nat) : Octets :=
  let digits := Nat.toDigits base n
  List.replicate (width - digits.length) '0' ++ digits

/-- A value made of some bytes, the lowest first. -/
def shown (f : DumpFormat) (bytes : Bytes) : Octets :=
  let n := bytes.reverse.foldl (fun (n : Nat) (b : UInt8) => 256 * n + b.toNat) 0
  let c := Char.ofNat n
  match f.kind with
  | .named => ((names[n % 128]?).getD (if n % 128 = 127 then "del" else String.ofList [Char.ofNat (n % 128)])).toList
  | .character =>
    match (['\x00', '\x07', '\x08', '\t', '\n', '\x0b', '\x0c', '\r'].zip "0abtnvfr".toList).lookup c with
    | some letter => ['\\', letter]
    | none => if isVisible c then [c] else withZeros 3 8 n
  | .signed =>
    let half := Nat.pow 2 (8 * f.size - 1)
    Digits.ofInt (if n < half then (n : Int) else (n : Int) - 2 * half)
  | .unsigned => Digits.ofNat n
  | .octal => withZeros f.width 8 n
  | .hexadecimal => withZeros f.width 16 n

/-- The size that is written behind a kind, and the rest. -/
def sizeAt (cs : Octets) : Option Nat × Octets :=
  match cs with
  | 'C' :: rest => (some 1, rest)
  | 'S' :: rest => (some 2, rest)
  | 'I' :: rest => (some 4, rest)
  | 'L' :: rest => (some 8, rest)
  | cs =>
    let digits := cs.takeWhile Char.isDigit
    (if digits.isEmpty then none else some (Digits.value digits), cs.drop digits.length)

/-- The formats that a text asks for. -/
def ofText (fuel : Nat) (whole cs : Octets) : Except String (List DumpFormat) :=
  match fuel, cs with
  | 0, _ | _, [] => .ok []
  | fuel + 1, c :: rest => do
    let kind? : Option DumpKind := match c with
      | 'a' => some .named
      | 'c' => some .character
      | 'd' => some .signed
      | 'u' => some .unsigned
      | 'o' => some .octal
      | 'x' => some .hexadecimal
      | _ => none
    match kind? with
    | none => throw s!"invalid character '{String.ofList [c]}' in type string {cited whole}"
    | some kind =>
      let (size, rest) ← if kind = .named || kind = .character then pure (1, rest)
        else
          match sizeAt rest with
          | (none, rest) => pure (4, rest)
          | (some n, rest) =>
            if [1, 2, 4, 8].contains n then pure (n, rest)
            else
              throw (s!"invalid type string {cited whole};\nthis system doesn't provide a "
                ++ s!"{String.ofList (Digits.ofNat n)}-byte integral type")
      let more ← ofText fuel whole (if rest.head? = some 'z' then rest.tail else rest)
      return { kind, size, withText := rest.head? = some 'z' } :: more

end DumpFormat

/-- Bytes in pieces of a size; the last one may be shorter. -/
def inPieces {α : Type} (fuel size : Nat) (bytes : List α) : List (List α) :=
  match fuel with
  | 0 => []
  | fuel + 1 => if bytes.isEmpty then [] else bytes.take size :: inPieces fuel size (bytes.drop size)

/-- A block of bytes in one format; `room` is how wide a full block is in the widest format. -/
def dumpedBlock (f : DumpFormat) (perBlock room : Nat) (block : Bytes) : Octets :=
  let fields := perBlock / f.size
  let extra := room - (f.width + 1) * fields
  let pieces := inPieces block.length.succ f.size block
  let gapAt (i : Nat) : Nat := extra * (fields - i) / fields - extra * (fields - i - 1) / fields
  let values := pieces.mapIdx fun i piece =>
    let text := f.shown (piece ++ List.replicate (f.size - piece.length) 0)
    ' ' :: rightAligned (f.width + gapAt i) text
  let missing := fields - pieces.length
  let text := if f.withText then
      List.replicate (missing * (f.width + 1) + extra * missing / fields) ' ' ++ "  >".toList
        ++ (Octets.ofBytes block).map (fun c => if isVisible c then c else '.') ++ ['<']
    else []
  values.flatten ++ text

/-- The options that stand for formats, with the texts for these. -/
def dumpShorthands : List (String × String) :=
  [("a", "a"), ("b", "o1"), ("c", "c"), ("d", "u2"), ("i", "dI"), ("l", "dL"), ("o", "o2"), ("s", "d2"), ("x", "x2"),
    ("h", "x2"), ("B", "o2"), ("D", "u4"), ("H", "x4"), ("I", "dL"), ("L", "dL"), ("O", "o4"), ("X", "x4")]

/-- Prints bytes as numbers or characters. -/
def od (s : State) (args : List Octets) : State :=
  let forms : List OptionForm :=
    (dumpShorthands.map fun (key, _) => ⟨key.toList, [], ValueKind.without⟩)
      ++ [.valued 'A' "address-radix", .valued 'j' "skip-bytes", .valued 'N' "read-bytes", .valued 't' "format",
        .plain 'v' "output-duplicates", ⟨['w'], ["width"], .maybe⟩]
  withArgs s 1 forms args fun a =>
    let asked := a.flags.filterMap fun (key, value) =>
      if key = "t" then some value else (dumpShorthands.lookup key).map String.toList
    let radix := (a.value? "A").getD ['o']
    let count? (key : String) : Except String (Option Nat) :=
      match a.value? key with
      | none => .ok none
      | some text =>
        match amount? text with
        | some n => .ok (some n)
        | none => .error s!"invalid -{key} argument {cited text}"
    let formats := (if asked.isEmpty then ["o2".toList] else asked).mapM fun t => DumpFormat.ofText t.length.succ t t
    match formats, count? "j", count? "N" with
    | .error reason, _, _ | _, .error reason, _ | _, _, .error reason => failed s 1 reason
    | .ok formats, .ok skipped, .ok limit =>
      let formats := formats.flatten
      if !(["o", "d", "x", "n"].contains (String.ofList radix)) then
        failed s 1 (s!"invalid output address radix {cited radix}; it must be one character from [doxn]")
      else
        let opens (file : Octets) : Bool := match contentOf s 0 file with
          | .ok _ => true
          | .error _ => false
        let skip := skipped.getD 0
        let isNothing := skip = 0 && !a.files.any opens
        let (bytes, s) := allOf s a
        if isNothing then s
        else if bytes.length < skip then failed s 1 "cannot skip past end of combined input"
        else
          let content := bytes.drop skip
          let content := limit.elim content content.take
          let unit := formats.foldl (fun n f => Nat.lcm n f.size) 1
          let perBlock := match a.value? "w" with
            | some [] => 32
            | some text => (amount? text).getD 16
            | none => unit * (16 / unit)
          let room := formats.foldl (fun n f => max n ((f.width + 1) * (perBlock / f.size))) 0
          let address (n : Nat) : Octets :=
            match radix with
            | ['d'] => DumpFormat.withZeros 7 10 n
            | ['x'] => DumpFormat.withZeros 6 16 n
            | ['n'] => []
            | _ => DumpFormat.withZeros 7 8 n
          let blockText (n : Nat) (block : Bytes) : Octets :=
            (formats.mapIdx fun i f =>
              (if i = 0 then address n else List.replicate (address n).length ' ')
                ++ dumpedBlock f perBlock room block ++ ['\n']).flatten
          let blocks := inPieces content.length.succ perBlock content
          let (text, _, _, _) := blocks.foldl
            (fun ((done : List Octets), (n : Nat), (latest : Option Bytes), (marked : Bool)) block =>
              if !a.has "v" && latest = some block && block.length = perBlock then
                (if marked then done else ['*', '\n'] :: done, n + perBlock, latest, true)
              else (blockText n block :: done, n + perBlock, some block, false))
            ([], skip, none, false)
          let stop := address (skip + content.length)
          put s (text.reverse.flatten ++ if stop.isEmpty then [] else stop ++ ['\n'])

/-! ## Comparing -/

/-- A byte in octal digits as wide as three. -/
def octalByte (b : UInt8) : Octets := rightAligned 3 (Nat.toDigits 8 b.toNat)

/-- Compares two files byte by byte. -/
def cmp (s : State) (args : List Octets) : State :=
  let forms : List OptionForm :=
    [.plain 'b' "print-bytes", .plain 'l' "verbose", ⟨['s'], ["quiet", "silent"], .without⟩, .valued 'n' "bytes",
      .valued 'i' "ignore-initial"]
  let usage (s : State) (text : String) : State :=
    (tell (tell s text) s!"Try '{String.ofList s.name} --help' for more information.").withStatus 2
  match Asked.ofArgs forms true args with
  | .error fault => usage s fault.message
  | .ok a =>
    match a.operands with
    | [] => usage s s!"missing operand after {cited s.name}"
    | first :: rest =>
      let second := rest.headD ['-']
      let refuse (file : Octets) (e : SystemError) : State :=
        if a.has "s" then s.withStatus 2 else failed s 2 s!"{String.ofList file}: {e.wording}"
      match contentOf s 0 first with
      | .error e => refuse first e
      | .ok (one, s) =>
        match contentOf s 0 second with
        | .error e => refuse second e
        | .ok (other, s) =>
          let limit := (a.value? "n").bind amount?
          let cut (bytes : Bytes) : Bytes := limit.elim bytes bytes.take
          let (one, other) := (cut one, cut other)
          let pairs := one.zip other
          let differing := pairs.zipIdx.filter fun ((x, y), _) => x ≠ y
          let names := s!"{String.ofList first} {String.ofList second}"
          let lineOf (n : Nat) : Nat := ((one.take n).filter (· = 10)).length + 1
          let shown (b : UInt8) : String := String.ofList (visible true true (Char.ofNat b.toNat))
          let width := (Digits.ofNat (min one.length other.length)).length
          match differing with
          | ((x, y), i) :: _ =>
            if a.has "s" then s.withStatus 1
            else if a.has "l" then
              (put s (differing.flatMap fun ((x, y), i) =>
                rightAligned width (Digits.ofNat (i + 1)) ++ ' ' :: octalByte x ++ ' ' :: octalByte y ++ ['\n'])).withStatus 1
            else
              let what := if a.has "b" then "byte" else "char"
              let bytes := if a.has "b" then
                  s!" is {String.ofList (octalByte x)} {shown x} {String.ofList (octalByte y)} {shown y}"
                else ""
              (put s s!"{names} differ: {what} {i + 1}, line {lineOf i}{bytes}\n".toList).withStatus 1
          | [] =>
            if one.length = other.length then s.withStatus 0
            else if a.has "s" then s.withStatus 1
            else
              let (short, file) := if one.length < other.length then (one, first) else (other, second)
              let n := short.length
              let place :=
                if n = 0 then "which is empty"
                else if short.getLast? = some 10 then s!"after byte {n}, line {lineOf n - 1}"
                else s!"after byte {n}, in line {lineOf n}"
              failed s 1 s!"EOF on {String.ofList file} {place}"

/-! ## Bytes in letters -/

/-- The letters for six bits each. -/
def sixBitLetters : Octets := "ABCDEFGHIJKLMNOPQRSTUVWXYZabcdefghijklmnopqrstuvwxyz0123456789+/".toList

/-- Three bytes at most in four letters. -/
def lettersOf (bytes : Bytes) : Octets :=
  let n := (bytes ++ List.replicate (3 - bytes.length) 0).foldl (fun (n : Nat) (b : UInt8) => 256 * n + b.toNat) 0
  let letters := [262144, 4096, 64, 1].map fun d => sixBitLetters.getD (n / d % 64) 'A'
  letters.take (bytes.length + 1) ++ List.replicate (3 - bytes.length) '='

/-- The bytes that four letters stand for, and whether they are four, with `=` for each byte that is missing. -/
def bytesOfLetters (letters : Octets) : Bytes × Bool :=
  let values := (letters.map sixBitLetters.idxOf?).takeWhile Option.isSome |>.reduceOption
  let n := (values ++ List.replicate (4 - values.length) 0).foldl (fun n v => 64 * n + v) 0
  let bytes := [65536, 256, 1].map fun d => UInt8.ofNat (n / d % 256)
  (bytes.take (values.length - 1), 2 ≤ values.length && letters.drop values.length = List.replicate (4 - values.length) '=')

/-- Writes bytes in letters, or reads them back. -/
def base64 (s : State) (args : List Octets) : State :=
  let forms : List OptionForm := [.plain 'd' "decode", .plain 'i' "ignore-garbage", .valued 'w' "wrap"]
  withArgs s 1 forms args fun a =>
    match a.operands with
    | _ :: extra :: _ => misused s s!"extra operand {cited extra}"
    | files =>
      match contentOf s 0 (files.headD ['-']) with
      | .error e => failed s 1 (plainRefusal (files.headD ['-']) e)
      | .ok (bytes, s) =>
        let s := s.withStatus 0
        if a.has "d" then
          let isLetter (c : Char) : Bool := sixBitLetters.contains c || c == '='
          let letters := (Octets.ofBytes bytes).filter fun c => if a.has "i" then isLetter c else c != '\n'
          let pieces := (inPieces letters.length.succ 4 letters).map bytesOfLetters
          let good := pieces.takeWhile (·.2)
          let s := putBytes s ((pieces.take (good.length + 1)).flatMap (·.1))
          if good.length < pieces.length then failed s 1 "invalid input" else s
        else
          let letters := (inPieces bytes.length.succ 3 bytes).flatMap lettersOf
          match (a.value? "w").elim (some 76) amount? with
          | none =>
            let asked := (a.value? "w").getD []
            failed s 1 s!"invalid wrap size: {cited asked}"
          | some 0 => put s letters
          | some width => put s (joinLines (inPieces letters.length.succ width letters))

/-! ## Rows and numbers -/

/-- Numbers lines. -/
def nl (s : State) (args : List Octets) : State :=
  let forms : List OptionForm :=
    [.valued 'b' "body-numbering", .valued 's' "number-separator", .valued 'v' "starting-line-number",
      .valued 'i' "line-increment", .valued 'w' "number-width", .valued 'n' "number-format",
      .valued 'h' "header-numbering", .valued 'f' "footer-numbering", .valued 'd' "section-delimiter",
      .valued 'l' "join-blank-lines", .plain 'p' "no-renumber"]
  withArgs s 1 forms args fun a =>
    let style := (a.value? "b").getD ['t']
    let separator := (a.value? "s").getD ['\t']
    let width := ((a.value? "w").bind amount?).getD 6
    let step := ((a.value? "i").bind Arithmetic.readInt?).getD 1
    let numberText (n : Int) : Octets :=
      match a.value? "n" with
      | some ['l', 'n'] => let text := Digits.ofInt n; text ++ List.replicate (width - text.length) ' '
      | some ['r', 'z'] => let text := Digits.ofInt n; List.replicate (width - text.length) '0' ++ text
      | _ => rightAligned width (Digits.ofInt n)
    let (bytes, s) := allOf s a
    let start := ((a.value? "v").bind Arithmetic.readInt?).getD 1
    let (lines, _) := ((linesOf (Octets.ofBytes bytes)).map bare).foldl
      (fun ((done : List Octets), (n : Int)) line =>
        let counts := style = ['a'] || (style = ['t'] && !line.isEmpty)
        if counts then ((numberText n ++ separator ++ line) :: done, n + step)
        else ((List.replicate (width + separator.length) ' ' ++ line) :: done, n)) ([], start)
    put s (joinLines lines.reverse)

/-- The column behind a character. -/
def columnBehind (byBytes : Bool) (column : Nat) (c : Char) : Nat :=
  if byBytes then column + 1
  else if c == '\t' then column + 8 - column % 8
  else if c == '\x08' then column - 1
  else if c == '\r' then 0
  else column + 1

/-- Breaks a line into rows that are not wider than a width, behind spaces if that is asked for. -/
def rowsOf (fuel width : Nat) (byBytes atSpaces : Bool) (line : Octets) : List Octets :=
  match fuel with
  | 0 => []
  | fuel + 1 =>
    let (count, _) := line.foldl (fun ((n : Nat), (column : Option Nat)) c =>
      match column with
      | none => (n, none)
      | some column =>
        let next := columnBehind byBytes column c
        if width < next && 0 < n then (n, none) else (n + 1, some next)) (0, some 0)
    if line.length ≤ count then [line]
    else
      let row := line.take count
      let behindSpace := (row.reverse.dropWhile fun c => c != ' ' && c != '\t').length
      let count := if atSpaces && behindSpace ≠ 0 then behindSpace else count
      line.take count :: rowsOf fuel width byBytes atSpaces (line.drop count)

/-- Breaks lines into rows. -/
def fold (s : State) (args : List Octets) : State :=
  let forms : List OptionForm := [.plain 'b' "bytes", .plain 's' "spaces", .valued 'w' "width"]
  let args := args.map fun arg =>
    match arg with
    | '-' :: c :: digits => if (c :: digits).all Char.isDigit then '-' :: 'w' :: c :: digits else arg
    | arg => arg
  withArgs s 1 forms args fun a =>
    match (a.value? "w").elim (some 80) fun text => (amount? text).filter (· ≠ 0) with
    | none =>
      let asked := (a.value? "w").getD []
      let range := if (amount? asked).isSome then ": Numerical result out of range" else ""
      failed s 1 s!"invalid number of columns: {cited asked}{range}"
    | some width =>
      overFiles s a.files plainRefusal fun s _ bytes =>
        put s ((linesOf (Octets.ofBytes bytes)).flatMap fun line =>
          let body := bare line
          ['\n'].intercalate (rowsOf body.length.succ width (a.has "b") (a.has "s") body)
            ++ if body.length < line.length then ['\n'] else [])

end ProtoTree.Shell.Utility
