import ProtoTree.Shell.Utility.Basic

/-! # Showing files

Utilities that print files, their ends, or how much is in them.
-/

namespace ProtoTree.Shell.Utility

open Text (Bytes Octets)

/-! ## Whole files -/

/-- A byte as it is shown when all of them can be seen. -/
def visible (showsTabs showsEnds : Bool) (c : Char) : Octets :=
  let n := c.toNat
  let low (n : Nat) : Octets :=
    if n < 32 then ['^', Char.ofNat (n + 64)] else if n = 127 then ['^', '?'] else [Char.ofNat n]
  if c == '\n' then if showsEnds then ['$', '\n'] else ['\n']
  else if c == '\t' then if showsTabs then ['^', 'I'] else ['\t']
  else if n < 128 then low n
  else 'M' :: '-' :: low (n - 128)

/-- A number in front of a line. -/
def numberedLine (n : Nat) (line : Octets) : Octets :=
  let digits := Digits.ofNat n
  List.replicate (6 - digits.length) ' ' ++ digits ++ '\t' :: line

/-- How files are shown. -/
structure Showing where
  /-- How many lines were numbered. -/
  count : Nat := 0
  /-- The latest line has no end yet. -/
  open_ : Bool := false
  /-- The latest line is empty. -/
  wasEmpty : Bool := false

/-- Prints files one after another. -/
def cat (s : State) (args : List Octets) : State :=
  let forms : List OptionForm :=
    [.plain 'A' "show-all", .plain 'b' "number-nonblank", .plain 'e' "", .plain 'E' "show-ends",
      .plain 'n' "number", .plain 's' "squeeze-blank", .plain 't' "", .plain 'T' "show-tabs", .plain 'u' "",
      .plain 'v' "show-nonprinting"]
  withArgs s 1 forms args fun a =>
    let all := a.has "A"
    let showsEnds := all || a.has "e" || a.has "E"
    let showsTabs := all || a.has "t" || a.has "T"
    let showsAll := all || a.has "e" || a.has "t" || a.has "v"
    let shownLine (line : Octets) : Octets :=
      if showsAll then line.flatMap (visible showsTabs showsEnds)
      else if showsEnds || showsTabs then
        line.flatMap fun c =>
          if c == '\n' && showsEnds then ['$', '\n'] else if c == '\t' && showsTabs then ['^', 'I'] else [c]
      else line
    let isPlain := !showsAll && !showsEnds && !showsTabs && !a.has "n" && !a.has "b" && !a.has "s"
    let show_ (w : Showing) (text : Octets) : Octets × Showing :=
      let (pieces, w) := (linesOf text).foldl (fun ((pieces : List Octets), (w : Showing)) line =>
        let isEmpty := line = ['\n'] && !w.open_
        if isEmpty && w.wasEmpty && a.has "s" then (pieces, w)
        else
          let numbers := !w.open_ && (if a.has "b" then !isEmpty else a.has "n")
          let count := if numbers then w.count + 1 else w.count
          let shown := if numbers then numberedLine count (shownLine line) else shownLine line
          (shown :: pieces, ⟨count, line.getLast? ≠ some '\n', isEmpty⟩)) ([], w)
      (pieces.reverse.flatten, w)
    let isOutput (s : State) (file : Octets) (bytes : Bytes) : Bool :=
      let outputEntry := match s.descriptors.lookup 1 with
        | some (.file k) => (s.world.openFiles[k]?).map (·.entry)
        | _ => none
      let own := if file = ['-'] then
          match s.descriptors.lookup 0 with
          | some (.file k) => (s.world.openFiles[k]?).map (·.entry)
          | _ => none
        else (s.entryOf? file true).toOption
      !bytes.isEmpty && outputEntry.isSome && outputEntry = own
    let readsInput := a.files.contains ['-']
    let (done, _) := a.files.foldl (fun ((s : State), (w : Showing)) file =>
      match contentOf s 0 file with
      | .error e => (failed s 1 (plainRefusal file e), w)
      | .ok (bytes, after) =>
        if isOutput s file bytes then (failed s 1 s!"{shownName file}: input file is output file", w)
        else if isPlain then (putBytes after bytes, w)
        else
          let (shown, w) := show_ w (Octets.ofBytes bytes)
          (put after shown, w)) (s.withStatus 0, {})
    if readsInput && (done.descriptors.lookup 0).isNone then
      failed done 1 "closing standard input: Bad file descriptor"
    else done

/-- Prints the lines of files, the last one first. -/
def tac (s : State) (args : List Octets) : State :=
  withArgs s 1 [] args fun a =>
    overFiles s a.files (fun file e =>
      if e = .isDirectory then s!"{shownName file}: read error: {e.wording}"
      else s!"failed to open {quoted file} for reading: {e.wording}") fun s _ bytes =>
        put s (linesOf (Octets.ofBytes bytes)).reverse.flatten

/-- Prints lines from end to start. -/
def rev (s : State) (args : List Octets) : State :=
  withArgs s 1 [] args fun a =>
    overFiles s a.files (fun file e => s!"cannot open {String.ofList file}: {e.wording}") fun s _ bytes =>
      put s ((linesOf (Octets.ofBytes bytes)).flatMap fun line =>
        (bare line).reverse ++ if (bare line).length < line.length then ['\n'] else [])

/-! ## Parts of files -/

/-- What the letters behind a number multiply it by. -/
def multiples : List (String × Nat) :=
  [("", 1), ("b", 512), ("c", 1), ("w", 2), ("kB", 1000), ("K", 1024), ("k", 1024), ("KB", 1000), ("KiB", 1024),
    ("M", 1048576), ("MB", 1000000), ("MiB", 1048576), ("m", 1048576), ("G", 1073741824), ("GB", 1000000000),
    ("GiB", 1073741824)]

/-- The number that digits with letters behind them stand for. -/
def amount? (text : Octets) : Option Nat :=
  let digits := text.takeWhile Char.isDigit
  if digits.isEmpty then none
  else
    (multiples.lookup (String.ofList (text.drop digits.length))).map fun n => Digits.value digits * n

/-- What is said about a file that cannot be opened. -/
def unopened (file : Octets) (e : SystemError) : String :=
  let shown := if file = ['-'] then "'standard input'" else quoted file
  if e = .isDirectory then s!"error reading {shown}: {e.wording}"
  else s!"cannot open {shown} for reading: {e.wording}"

/-- How much of the input is read at once. -/
def blockSize : Nat := 8192

/-- Leaves what comes behind the first bytes of the input, or behind the blocks that hold them when there is no
    going back. -/
def leaveBehind (s : State) (bytes : Bytes) (used : Nat) : State :=
  match s.descriptors.lookup 0 with
  | some (.file _) => s.leaveUnread 0 (bytes.drop used)
  | _ => s.leaveUnread 0 (bytes.drop ((used + blockSize - 1) / blockSize * blockSize))

/-- Prints a part of each file, with the files' names when there are several. Only the input's beginning is read
    for a part that is at the `start`. -/
def showParts (s : State) (a : Asked) (limit : Nat) (start : Bool) (part : Octets → Octets) : State :=
  let titled := match a.last? ["q", "v"] with
    | some "v" => true
    | some _ => false
    | none => 1 < a.files.length
  (a.files.foldl (fun ((s : State), (first : Bool)) file =>
    let title := if file = ['-'] then "standard input".toList else file
    let entitle (s : State) : State :=
      if titled then put s ((if first then [] else ['\n']) ++ "==> ".toList ++ title ++ " <==\n".toList) else s
    match contentOf s limit file with
    | .error e =>
      if e = .isDirectory then (failed (entitle s) 1 (unopened file e), first && !titled)
      else (failed s 1 (unopened file e), first)
    | .ok (bytes, s) =>
      let s := entitle s
      let shown := part (Octets.ofBytes bytes)
      let s := if start && file = ['-'] then leaveBehind s bytes shown.length else s
      (put s shown, false)) (s.withStatus 0, true)).1

/-- An argument that is a count of its own, as options of today: digits, and letters that tell what is counted. -/
def oldCount? (sign : Char) (arg : Octets) : Option (List Octets) :=
  match arg with
  | c :: rest =>
    let digits := rest.takeWhile Char.isDigit
    let letters := rest.drop digits.length
    if c ≠ sign || digits.isEmpty || !letters.all "bkmclqvz".toList.contains then none
    else
      let unit := letters.filter "bkm".toList.contains
      let counted := if letters.any "cbkm".toList.contains && !letters.contains 'l' then 'c' else 'n'
      let number := (if sign = '+' then ['+'] else []) ++ digits ++ unit
      some (['-', counted] :: number :: (letters.filter "qvz".toList.contains).map fun l => ['-', l])
  | [] => none

/-- The options that take a part of files. -/
def partForms : List OptionForm :=
  [.valued 'c' "bytes", .valued 'n' "lines", ⟨['q'], ["quiet", "silent"], .without⟩, .plain 'v' "verbose",
    .plain 'z' "zero-terminated"]

/-- What is said about a count that is no number. -/
def badCount (s : State) (counted : String) (text : Octets) : State :=
  let items := if counted = "c" then "bytes" else "lines"
  failed s 1 s!"invalid number of {items}: {cited text}"

/-- Prints the beginning of files. -/
def head (s : State) (args : List Octets) : State :=
  let args := match args with
    | first :: rest => (oldCount? '-' first).elim args (· ++ rest)
    | [] => []
  withArgs s 1 partForms args fun a =>
    let counted := (a.last? ["c", "n"]).getD "n"
    let text := (a.value? counted).getD ['1', '0']
    let (fromEnd, digits) := match text with
      | '-' :: digits => (true, digits)
      | '+' :: digits => (false, digits)
      | digits => (false, digits)
    match amount? digits with
    | none => badCount s counted (if fromEnd then digits else text)
    | some n =>
      let ending := if a.has "z" then '\x00' else '\n'
      let count (items : List Octets) : Octets :=
        (items.take (if fromEnd then items.length - n else n)).flatten
      showParts s a (if counted = "c" then n else 0) (!fromEnd) fun text =>
        if counted = "c" then text.take (if fromEnd then text.length - n else n)
        else count (linesEnded ending text)

/-- Prints the end of files. -/
def tail (s : State) (args : List Octets) : State :=
  let args := match args with
    | first :: rest => ((oldCount? '-' first).or (oldCount? '+' first)).elim args (· ++ rest)
    | [] => []
  withArgs s 1 partForms args fun a =>
    let counted := (a.last? ["c", "n"]).getD "n"
    let text := (a.value? counted).getD ['1', '0']
    let (fromStart, digits) := match text with
      | '+' :: digits => (true, digits)
      | '-' :: digits => (false, digits)
      | digits => (false, digits)
    match amount? digits with
    | none => badCount s counted text
    | some n =>
      let ending := if a.has "z" then '\x00' else '\n'
      let dropped (length : Nat) : Nat := if fromStart then n - 1 else length - n
      showParts s a 0 false fun text =>
        if counted = "c" then text.drop (dropped text.length)
        else
          let lines := linesEnded ending text
          (lines.drop (dropped lines.length)).flatten

/-! ## Counts -/

/-- How many words there are in a text. -/
def wordCount (text : Octets) : Nat :=
  (text.foldl (fun ((count : Nat), (inWord : Bool)) c =>
    if isBlank c then (count, false) else (if inWord then count else count + 1, true)) (0, false)).1

/-- How many columns the longest line takes. -/
def longestLine (text : Octets) : Nat :=
  (text.foldl (fun ((longest : Nat), (column : Nat)) c =>
    if c == '\n' || c == '\r' || c == '\x0c' then (longest, 0)
    else
      let column := if c == '\t' then column / 8 * 8 + 8 else if isVisible c then column + 1 else column
      (max longest column, column)) (0, 0)).1

/-- A text with blanks in front of it. -/
def rightAligned (width : Nat) (text : Octets) : Octets := List.replicate (width - text.length) ' ' ++ text

/-- How large a file is when it is read as an operand, unless it is something else than a file or is not there. -/
def operandSize (s : State) (file : Octets) : Option (Option Nat) :=
  let ofEntry (n : Nat) : Option Nat := match s.disk.entryAt n with
    | .file bytes => some bytes.length
    | _ => none
  if file = ['-'] then
    match s.descriptors.lookup 0 with
    | some (.file k) => (s.world.openFiles[k]?).map fun f => ofEntry f.entry
    | some _ => some none
    | none => none
  else (s.entryOf? file true).toOption.map ofEntry

/-- Counts lines, words and bytes. -/
def wc (s : State) (args : List Octets) : State :=
  let forms : List OptionForm :=
    [.plain 'c' "bytes", .plain 'm' "chars", .plain 'l' "lines", .plain 'w' "words",
      .plain 'L' "max-line-length", .long "total" .withValue]
  withArgs s 1 forms args fun a =>
    let asks := ["l", "w", "m", "c", "L"].filter a.has
    let shows := if asks.isEmpty then ["l", "w", "c"] else asks
    let countsOf (text : Octets) : List Nat :=
      shows.map fun what =>
        match what with
        | "l" => text.count '\n'
        | "w" => wordCount text
        | "L" => longestLine text
        | _ => text.length
    let sizes := a.files.map (operandSize s)
    let width :=
      if shows.length = 1 && a.files.length = 1 then 1
      else if sizes.head? = some none then 1
      else
        let total := (sizes.map fun size => (size.getD none).getD 0).foldl (· + ·) 0
        let least := if sizes.contains (some none) then 7 else 1
        max least (Digits.ofNat total).length
    let shown (counts : List Nat) (title : Octets) : Octets :=
      let columns := counts.map fun n => rightAligned width (Digits.ofNat n)
      [' '].intercalate (columns ++ if title.isEmpty then [] else [title]) ++ ['\n']
    let zero := shows.map fun _ => 0
    let add (totals counts : List Nat) : List Nat :=
      (shows.zip (totals.zip counts)).map fun (what, t, c) => if what = "L" then max t c else t + c
    let (done, totals) := a.files.foldl (fun ((s : State), (totals : List Nat)) file =>
      match contentOf s 0 file with
      | .ok (bytes, s) =>
        let counts := countsOf (Octets.ofBytes bytes)
        (put s (shown counts (if a.operands.isEmpty then [] else file)), add totals counts)
      | .error e =>
        let s := failed s 1 (plainRefusal (if file = ['-'] then "standard input".toList else file) e)
        (if e = .isDirectory then put s (shown zero file) else s, totals)) (s.withStatus 0, zero)
    let totalled := match (a.value? "total").map String.ofList with
      | some "always" | some "only" => true
      | some "never" => false
      | _ => 1 < a.files.length
    if totalled then put done (shown totals "total".toList) else done

end ProtoTree.Shell.Utility
