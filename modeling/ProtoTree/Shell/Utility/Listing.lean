import ProtoTree.Shell.Utility.Files

/-! # Listings

What is in directories, with as much about each entry as is asked for.
-/

namespace ProtoTree.Shell.Utility

open Text (Octets)

/-! ## Facts about entries -/

/-- The letter of a kind of entry. -/
def kindLetter : DiskEntry → Char
  | .directory => 'd'
  | .link _ => 'l'
  | .device _ => 'c'
  | _ => '-'

/-- How many bytes an entry has. -/
def sizeOf (s : State) (n : Nat) : Nat :=
  match s.disk.entryAt n with
  | .file content => content.length
  | .directory => 4096
  | .link goal => (Octets.ofBytes goal.bytes).length
  | _ => 0

/-- How many blocks of a thousand bytes and some an entry takes. -/
def blocksOf (s : State) (n : Nat) : Nat :=
  match s.disk.entryAt n with
  | .file content => (content.length + 4095) / 4096 * 4
  | .directory => 4
  | _ => 0

/-- How many names an entry has; a directory has one in each directory in it too. -/
def linksOf (s : State) (n : Nat) : Nat :=
  let named := (s.disk.named.filter fun (_, m) => m = n).length
  match s.disk.entryAt n with
  | .directory => 2 + ((s.namesIn n).filter fun name =>
      (s.disk.names[DiskName.mk n (Octets.toBytes name)]?).any fun m => s.disk.entryAt m = .directory).length
  | _ => max named 1

/-- The parts of a moment. -/
structure Date where
  year : Int
  month : Nat
  day : Nat
  hour : Nat
  minute : Nat
  second : Nat
  nanosecond : Nat
  /-- The days since Sunday, and since the first day of the year. -/
  weekday : Nat
  yearDay : Nat

namespace Date

/-- The parts of a number of nanoseconds since the start of 1970. -/
def ofStamp (stamp : Int) : Date :=
  let seconds := stamp.fdiv 1000000000
  let days := seconds.fdiv 86400
  let ofDay := (seconds - days * 86400).toNat
  let z := days + 719468
  let era := z.fdiv 146097
  let ofEra := (z - era * 146097).toNat
  let yearOfEra := (ofEra - ofEra / 1460 + ofEra / 36524 - ofEra / 146096) / 365
  let ofYear := ofEra - (365 * yearOfEra + yearOfEra / 4 - yearOfEra / 100)
  let shifted := (5 * ofYear + 2) / 153
  let month := if shifted < 10 then shifted + 3 else shifted - 9
  let year : Int := yearOfEra + era * 400 + (if month ≤ 2 then 1 else 0)
  let day := ofYear - (153 * shifted + 2) / 5 + 1
  { year, month, day, hour := ofDay / 3600, minute := ofDay / 60 % 60, second := ofDay % 60
    nanosecond := (stamp - seconds * 1000000000).toNat
    weekday := ((days + 4).emod 7).toNat
    yearDay := (days - secondsOf year.toNat 1 1 0 0 0 / 86400).toNat }

def monthNames : List String :=
  ["January", "February", "March", "April", "May", "June", "July", "August", "September", "October", "November",
    "December"]

def dayNames : List String := ["Sunday", "Monday", "Tuesday", "Wednesday", "Thursday", "Friday", "Saturday"]

/-- Digits with something in front until there are enough. -/
def padded (width : Nat) (c : Char) (n : Int) : Octets :=
  let digits := Digits.ofInt n
  List.replicate (width - digits.length) c ++ digits

def monthName (d : Date) : String := (monthNames[d.month - 1]?).getD ""

def dayName (d : Date) : String := (dayNames[d.weekday]?).getD ""

/-- A part of a moment, as a letter asks for it. -/
def part (stamp : Int) (d : Date) (letter : Char) : Option Octets :=
  let zero (width : Nat) (n : Int) : Option Octets := some (padded width '0' n)
  let twelve := if d.hour % 12 = 0 then 12 else d.hour % 12
  let clock := padded 2 '0' d.hour ++ ':' :: padded 2 '0' d.minute
  let full := clock ++ ':' :: padded 2 '0' d.second
  let text (t : String) : Option Octets := some t.toList
  match letter with
  | 'Y' => some (Digits.ofInt d.year)
  | 'C' => zero 2 (d.year / 100)
  | 'y' => zero 2 (d.year % 100)
  | 'm' => zero 2 d.month
  | 'd' => zero 2 d.day
  | 'e' => some (padded 2 ' ' d.day)
  | 'H' => zero 2 d.hour
  | 'k' => some (padded 2 ' ' d.hour)
  | 'I' => zero 2 twelve
  | 'l' => some (padded 2 ' ' twelve)
  | 'M' => zero 2 d.minute
  | 'S' => zero 2 d.second
  | 'N' => zero 9 d.nanosecond
  | 's' => some (Digits.ofInt (stamp.fdiv 1000000000))
  | 'j' => zero 3 (d.yearDay + 1)
  | 'u' => some (Digits.ofNat (if d.weekday = 0 then 7 else d.weekday))
  | 'w' => some (Digits.ofNat d.weekday)
  | 'A' => text d.dayName
  | 'a' => some (d.dayName.toList.take 3)
  | 'B' => text d.monthName
  | 'b' | 'h' => some (d.monthName.toList.take 3)
  | 'p' => text (if d.hour < 12 then "AM" else "PM")
  | 'P' => text (if d.hour < 12 then "am" else "pm")
  | 'Z' => text "UTC"
  | 'z' => text "+0000"
  | 'q' => some (Digits.ofNat ((d.month - 1) / 3 + 1))
  | 'F' => some (Digits.ofInt d.year ++ '-' :: padded 2 '0' d.month ++ '-' :: padded 2 '0' d.day)
  | 'D' | 'x' => some (padded 2 '0' d.month ++ '/' :: padded 2 '0' d.day ++ '/' :: padded 2 '0' (d.year % 100))
  | 'T' | 'X' => some full
  | 'R' => some clock
  | 'r' => some (padded 2 '0' twelve ++ ':' :: full.drop 3 ++ (if d.hour < 12 then " AM" else " PM").toList)
  | 'c' =>
    some (d.dayName.toList.take 3 ++ ' ' :: d.monthName.toList.take 3 ++ ' ' :: padded 2 ' ' d.day ++ ' ' :: full
      ++ ' ' :: Digits.ofInt d.year)
  | 'n' => some ['\n']
  | 't' => some ['\t']
  | '%' => some ['%']
  | _ => none

/-- A moment as a format asks for it. -/
def shown (stamp : Int) : Octets → Octets
  | '%' :: '-' :: letter :: rest =>
    let text := (part stamp (ofStamp stamp) letter).getD ['%', '-', letter]
    (if 1 < text.length then
      let bare := text.dropWhile fun c => c == '0' || c == ' '
      if bare.isEmpty then ['0'] else bare
    else text) ++ shown stamp rest
  | '%' :: letter :: rest => (part stamp (ofStamp stamp) letter).getD ['%', letter] ++ shown stamp rest
  | c :: rest => c :: shown stamp rest
  | [] => []

end Date

/-! ## Lists of names -/

/-- What stands behind a name to tell its kind. -/
def mark (a : Asked) (s : State) (n : Nat) : Octets :=
  let style := (a.last? ["F", "p", "file-type"]).getD ""
  match s.disk.entryAt n with
  | .directory => if style = "" then [] else ['/']
  | .link _ => if style = "F" || style = "file-type" then ['@'] else []
  | _ => if style = "F" && s.disk.isExecutable n then ['*'] else []

/-- An entry to be listed: the name that is shown, and its number. -/
abbrev Listed := Octets × Nat

/-- Numbers inside names taken as numbers, for comparing names with versions in them. -/
def versionKey (fuel : Nat) (name : Octets) : List (Nat × Octets × Nat) :=
  match fuel with
  | 0 => []
  | fuel + 1 =>
    if name.isEmpty then []
    else
      let text := name.takeWhile (!·.isDigit)
      let rest := name.drop text.length
      let digits := rest.takeWhile Char.isDigit
      (0, text, Digits.value digits) :: versionKey fuel (rest.drop digits.length)

/-- Whether one name with versions in it comes before another. -/
def versionLess : List (Nat × Octets × Nat) → List (Nat × Octets × Nat) → Bool
  | _, [] => false
  | [], _ => true
  | (_, a, m) :: rest, (_, b, n) :: more =>
    if a ≠ b then decide (a < b) else if m ≠ n then m < n else versionLess rest more

/-- The ending of a name behind its last dot. -/
def endingOf (name : Octets) : Octets :=
  if name.contains '.' then '.' :: (name.splitOn '.').getLastD [] else []

/-- Puts entries in order. -/
def sorted (a : Asked) (s : State) (items : List Listed) : List Listed :=
  let byName (x y : Listed) : Bool := !decide (y.1 < x.1)
  let order := match a.value? "sort" with
    | some word => String.ofList (word.take 1)
    | none => (a.last? ["S", "t", "U", "f", "v", "X"]).getD ""
  let items := if order = "U" || order = "f" || order = "n" then items else items.mergeSort byName
  let items := match order with
    | "S" | "s" => items.mergeSort fun x y => sizeOf s y.2 ≤ sizeOf s x.2
    | "t" => items.mergeSort fun x y => !decide (s.stampOf x.2 < s.stampOf y.2)
    | "v" => items.mergeSort fun x y =>
      !versionLess (versionKey y.1.length.succ y.1) (versionKey x.1.length.succ x.1)
    | "X" | "e" => items.mergeSort fun x y => !decide (endingOf y.1 < endingOf x.1)
    | _ => items
  if a.has "r" then items.reverse else items

/-- A size with a letter for thousands and some. -/
def humanSize (n : Nat) : Octets :=
  let rec scaled (fuel unit : Nat) (letters : List Char) : Octets :=
    match fuel, letters with
    | fuel + 1, letter :: more =>
      let tenths := (n * 10 + unit - 1) / unit
      if tenths < 100 then Digits.ofNat (tenths / 10) ++ '.' :: Digits.ofNat (tenths % 10) ++ [letter]
      else if (n + unit - 1) / unit < 1024 || more.isEmpty then Digits.ofNat ((n + unit - 1) / unit) ++ [letter]
      else scaled fuel (unit * 1024) more
    | _, _ => Digits.ofNat n
  if n < 1024 then Digits.ofNat n else scaled 8 1024 "KMGTPE".toList

/-- A size as it is asked for. -/
def shownSize (a : Asked) (n : Nat) : Octets := if a.has "h" then humanSize n else Digits.ofNat n

/-- Blocks as they are asked for. -/
def shownBlocks (a : Asked) (n : Nat) : Octets := if a.has "h" then humanSize (n * 1024) else Digits.ofNat n

/-- A name as it is asked for. -/
def shownEntry (a : Asked) (name : Octets) : Octets :=
  match a.last? ["Q", "b", "q", "N"] with
  | some "Q" => '"' :: name.flatMap (fun c =>
      if c == '"' || c == '\\' then ['\\', c] else if isVisible c then [c] else escaped c) ++ ['"']
  | some "b" => name.flatMap fun c => if c == '\\' || c == ' ' then ['\\', c] else if isVisible c then [c] else escaped c
  | some "q" => name.map fun c => if isVisible c then c else '?'
  | _ => name

/-- When an entry was changed, as a list tells it: for long ago, the year instead of the time. -/
def shownTime (a : Asked) (s : State) (n : Nat) : Octets :=
  let stamp := s.stampOf n
  match (if a.has "full-time" then some "full-iso".toList else a.value? "time-style") with
  | some ('+' :: format) => Date.shown stamp format
  | some style =>
    match String.ofList style with
    | "full-iso" => Date.shown stamp "%F %T.%N %z".toList
    | "long-iso" => Date.shown stamp "%F %R".toList
    | "iso" => Date.shown stamp "%m-%d %R".toList
    | _ => Date.shown stamp "%b %e %R".toList
  | none =>
    let halfYear : Int := 31556952 / 2 * 1000000000
    let isRecent := s.clock - halfYear < stamp && stamp ≤ s.clock
    Date.shown stamp (if isRecent then "%b %e %R" else "%b %e  %Y").toList

/-- Text on the right or the left of a column. -/
def leftAligned (width : Nat) (text : Octets) : Octets := text ++ List.replicate (width - text.length) ' '

/-- The widest of some texts. -/
def widthOf (texts : List Octets) : Nat := (texts.map List.length).foldl max 0

/-- Lines that tell all about entries. -/
def longLines (a : Asked) (s : State) (items : List Listed) : Octets :=
  let rows := items.map fun (name, n) =>
    let entry := s.disk.entryAt n
    let owner := if a.has "n" then "0" else "root"
    let goal := match entry with
      | .link goal =>
        let end_ := (s.entryOf? (within (s.placeOf (s.disk.homeOf n).directory) (Octets.ofBytes goal.bytes)) true)
        " -> ".toList ++ Octets.ofBytes goal.bytes ++ (end_.toOption.elim [] (mark a s))
      | _ => mark a s n
    let columns : List (Bool × Octets) :=
      (if a.has "i" then [(true, Digits.ofNat (n + 1))] else [])
        ++ (if a.has "s" then [(true, shownBlocks a (blocksOf s n))] else [])
        ++ [(false, kindLetter entry :: modeLetters (s.disk.modeOf n)), (true, Digits.ofNat (linksOf s n))]
        ++ (if a.has "g" then [] else [(false, owner.toList)])
        ++ (if a.has "o" || a.has "G" then [] else [(false, owner.toList)])
        ++ [(true, shownSize a (sizeOf s n)), (true, shownTime a s n)]
    (columns, shownEntry a name ++ goal)
  let count := ((rows.head?.map (·.1)).getD []).length
  let widths := (List.range count).map fun i => widthOf (rows.map fun row => ((row.1[i]?).map (·.2)).getD [])
  rows.flatMap fun (columns, name) =>
    let cells := (columns.zip widths).map fun ((right, text), width) =>
      if right then rightAligned width text else leftAligned width text
    [' '].intercalate (cells ++ [name]) ++ ['\n']

/-- The gap from one column to another, with tabs where they fit. -/
def gapBetween (fuel start stop : Nat) : Octets :=
  match fuel with
  | 0 => []
  | fuel + 1 =>
    if stop ≤ start then []
    else if (start + 1) / 8 < stop / 8 then '\t' :: gapBetween fuel (start + 8 - start % 8) stop
    else ' ' :: gapBetween fuel (start + 1) stop

/-- How wide a list in columns may be. -/
def lineWidth : Nat := 80

/-- Cells in as many columns as fit, filled downwards or `across`. -/
def inColumns (across : Bool) (cells : List Octets) : Octets :=
  let count := cells.length
  let layout (columns : Nat) : Nat × List Nat :=
    let rows := (count + columns - 1) / columns
    let columnOf (i : Nat) : Nat := if across then i % columns else i / rows
    let widths := (List.range columns).map fun k =>
      widthOf ((cells.zipIdx.filter fun (_, i) => columnOf i = k).map (·.1))
        + if k + 1 = columns then 0 else 2
    (rows, widths)
  let fits (columns : Nat) : Bool := ((layout columns).2.foldl (· + ·) 0) < lineWidth
  let columns := (((List.range (min count (lineWidth / 3))).map (· + 1)).reverse.find? fits).getD 1
  let (rows, widths) := layout columns
  (List.range rows).flatMap fun row =>
    let numbers := if across then (List.range columns).map (row * columns + ·)
      else (List.range columns).map (row + · * rows)
    let line := (numbers.zip widths).foldl (fun ((text : Octets), (from_ : Nat), (to_ : Nat)) (i, width) =>
      match cells[i]? with
      | some cell => (text ++ gapBetween lineWidth from_ to_ ++ cell, to_ + cell.length, to_ + width)
      | none => (text, from_, to_)) ([], 0, 0)
    line.1 ++ ['\n']

/-- A list of entries as it is asked for. -/
def shownList (a : Asked) (s : State) (items : List Listed) : Octets :=
  let style := match a.value? "format" with
    | some word => (match String.ofList (word.take 1) with
      | "l" | "v" => "l"
      | "c" => "m"
      | "a" | "h" => "x"
      | "s" => "1"
      | _ => "C")
    | none =>
      match a.last? ["l", "n", "g", "o", "full-time", "1", "C", "x", "m"] with
      | some "n" | some "g" | some "o" | some "full-time" => "l"
      | some style => style
      | none => "1"
  let long := style = "l"
  if long then longLines a s items
  else
    let numbers := items.map fun (_, n) => if a.has "i" then Digits.ofNat (n + 1) else []
    let blocks := items.map fun (_, n) => if a.has "s" then shownBlocks a (blocksOf s n) else []
    let cell (item : Listed) : Octets :=
      let (name, n) := item
      (if a.has "i" then rightAligned (widthOf numbers) (Digits.ofNat (n + 1)) ++ [' '] else [])
        ++ (if a.has "s" then rightAligned (widthOf blocks) (shownBlocks a (blocksOf s n)) ++ [' '] else [])
        ++ shownEntry a name ++ mark a s n
    let cells := items.map cell
    match style with
    | "m" => if cells.isEmpty then [] else [',', ' '].intercalate cells ++ ['\n']
    | "C" => if cells.isEmpty then [] else inColumns false cells
    | "x" => if cells.isEmpty then [] else inColumns true cells
    | _ => joinLines cells

/-- The entries of a directory that are to be listed. -/
def entriesIn (a : Asked) (s : State) (n : Nat) : List Listed :=
  let names := s.namesIn n
  let chosen := match a.last? ["a", "A", "f"] with
    | some "A" => names
    | some _ => ['.'] :: ['.', '.'] :: names
    | none => names.filter fun name => name.head? ≠ some '.'
  let chosen := if a.has "B" then chosen.filter fun name => name.getLast? ≠ some '~' else chosen
  chosen.filterMap fun name =>
    if name = ['.'] then some (name, n)
    else if name = ['.', '.'] then some (name, (s.disk.homeOf n).directory)
    else
      (s.disk.names[DiskName.mk n (Octets.toBytes name)]?).map fun m =>
        if a.has "L" then (name, (s.entryOf? (within (s.placeOf n) name) true).toOption.getD m) else (name, m)

/-- Whether entries are listed with all that is known. -/
def isLong (a : Asked) : Bool := a.has "l" || a.has "n" || a.has "g" || a.has "o" || a.has "full-time"

/-- What is in a directory, and in those below it if that is asked for. -/
def shownDir (fuel : Nat) (a : Asked) (s : State) (titled : Bool) (dir : Octets) (n : Nat) : List Octets :=
  match fuel with
  | 0 => []
  | fuel + 1 =>
    let items := sorted a s (entriesIn a s n)
    let title := if titled then dir ++ [':', '\n'] else []
    let total :=
      if isLong a || a.has "s" then
        "total ".toList ++ shownBlocks a ((items.map fun i => blocksOf s i.2).foldl (· + ·) 0) ++ ['\n']
      else []
    let here := title ++ total ++ shownList a s items
    if !a.has "R" then [here]
    else
      let below := items.filter fun (name, m) =>
        s.disk.entryAt m = .directory && name ≠ ['.'] && name ≠ ['.', '.']
      here :: below.flatMap fun (name, m) => shownDir fuel a s true (within dir name) m

/-- Lists files and what is in directories. -/
def ls (s : State) (args : List Octets) : State :=
  let plainLetters := "acdfgilmnopqrstuvxABCFGHLNQRSUX1hkbZ".toList
  let words : List (Char × String) :=
    [('a', "all"), ('A', "almost-all"), ('b', "escape"), ('B', "ignore-backups"), ('d', "directory"),
      ('h', "human-readable"), ('i', "inode"), ('L', "dereference"), ('n', "numeric-uid-gid"), ('N', "literal"),
      ('q', "hide-control-chars"), ('Q', "quote-name"), ('r', "reverse"), ('R', "recursive"), ('s', "size"),
      ('G', "no-group"), ('H', "dereference-command-line"), ('k', "kibibytes")]
  let plain := plainLetters.map fun c => OptionForm.plain c ((words.lookup c).getD "")
  let forms := (plain.filter fun o => !o.letters.contains 'F') ++
    [⟨['F'], ["classify"], .without⟩, .long "file-type" .without, .long "full-time" .without,
      .long "sort" .withValue, .long "format" .withValue, .long "time-style" .withValue, .long "time" .withValue,
      .long "color" .maybe, .long "group-directories-first" .without, .long "show-control-chars" .without,
      .long "author" .without, .long "si" .without, .valued 'I' "ignore", .valued 'w' "width",
      .valued 'T' "tabsize", .long "block-size" .withValue, .long "indicator-style" .withValue,
      .long "quoting-style" .withValue, .long "hyperlink" .maybe]
  withArgs s 2 forms args fun a =>
    let operands := if a.operands.isEmpty then [['.']] else a.operands
    let stays := isLong a || a.has "d" || a.has "F"
    let (s, found) := operands.foldl (fun ((s : State), (found : List Listed)) file =>
      let follows := a.has "L" || a.has "H"
        || (!stays && s.isDir file) || (file.getLast? = some '/')
      match s.entryOf? file follows with
      | .ok n => (s, (file, n) :: found)
      | .error e =>
        match s.entryOf? file false with
        | .ok n => (s, (file, n) :: found)
        | .error _ => (failed s 2 s!"cannot access {quoted file}: {e.wording}", found)) (s.withStatus 0, [])
    let (dirs, files) := found.reverse.partition fun (_, n) => s.disk.entryAt n = .directory && !a.has "d"
    let inFiles := if files.isEmpty then [] else [shownList a s (sorted a s files)]
    let titled := 1 < operands.length || a.has "R"
    let inDirs := (sorted a s dirs).flatMap fun (dir, n) => shownDir (s.disk.entries.size + 1) a s titled dir n
    put s (['\n'].intercalate (inFiles ++ inDirs))

end ProtoTree.Shell.Utility
