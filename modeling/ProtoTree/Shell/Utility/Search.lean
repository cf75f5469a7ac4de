import ProtoTree.Shell.Regex
import ProtoTree.Shell.Utility.Files

/-! # Searching

Lines of files in which expressions are found. A match may have to be a whole
word or a whole line.
-/

namespace ProtoTree.Shell.Utility

open Text (Bytes Octets)

/-- What is looked for in lines. -/
structure Search where
  patterns : List Regex
  foldsCase : Bool := false
  wholeWords : Bool := false
  wholeLines : Bool := false

namespace Search

/-- The expression that stands for a text and nothing else. -/
def literal (text : Octets) : Regex := text.foldl (fun r c => Regex.followedBy r (.char c)) .nothing

/-- Whether a part of a line counts as a match. -/
def counts (f : Search) (text : Octets) (start stop : Nat) : Bool :=
  let isWordAt (i : Nat) : Bool := Place.isInWord text[i]?
  if f.wholeLines then start = 0 && stop = text.length
  else if f.wholeWords then !(0 < start && isWordAt (start - 1)) && !isWordAt stop
  else true

/-- The longest match that starts at a place. -/
def matchAt? (f : Search) (line : Octets) (p : Place) : Option Nat :=
  let ends := f.patterns.flatMap fun r => (r.ends f.foldsCase p).map (·.position)
  (ends.filter (f.counts line p.position)).max?

/-- The first match from a place on: where it starts and ends. -/
def find? (f : Search) (line : Octets) (fuel : Nat) (p : Place) : Option (Nat × Nat) :=
  match fuel with
  | 0 => none
  | fuel + 1 =>
    match f.matchAt? line p with
    | some stop => some (p.position, stop)
    | none =>
      match p.rest with
      | c :: rest => f.find? line fuel { p with position := p.position + 1, before := some c, rest }
      | [] => none

/-- The place in a line behind some of its characters. -/
def placeAt (text : Octets) (i : Nat) : Place :=
  { position := i, before := if i = 0 then none else text[i - 1]?, rest := text.drop i }

/-- Whether there is a match in a line. -/
def isIn (f : Search) (line : Octets) : Bool := (f.find? line line.length.succ (placeAt line 0)).isSome

/-- The matches in a line that are not empty, one behind another. -/
def matchesIn (f : Search) (line : Octets) (fuel start : Nat) : List (Nat × Nat) :=
  match fuel with
  | 0 => []
  | fuel + 1 =>
    match f.find? line line.length.succ (placeAt line start) with
    | none => []
    | some (from_, stop) =>
      if from_ = stop then if from_ < line.length then f.matchesIn line fuel (from_ + 1) else []
      else (from_, stop) :: f.matchesIn line fuel stop

end Search

/-- How the lines of files are searched and shown. -/
structure Searching where
  search : Search
  /-- Lines without a match are wanted. -/
  negated : Bool
  /-- How many lines are wanted at most. -/
  limit : Option Nat
  before : Nat
  after : Nat
  asked : Asked

/-- A line of a file, with its number, what is in front of it in bytes, and whether it is wanted. -/
structure FoundLine where
  number : Nat
  offset : Nat
  text : Octets
  wanted : Bool

/-- What searching files has come to. -/
structure SearchRun where
  state : State
  found : Bool := false
  failed : Bool := false
  /-- Lines were shown, so that a gap is marked. -/
  shown : Bool := false

/-- Where the values of options are from: digits alone count as well. -/
def contextOf (a : Asked) : Except String (Nat × Nat) := do
  let number (text : Octets) : Except String Nat :=
    if Digits.isNumber text then .ok (Digits.value text)
    else .error s!"{String.ofList text}: invalid context length argument"
  let both ← match a.value? "C" with
    | some text => number text
    | none => pure 0
  let before ← match a.value? "B" with
    | some text => number text
    | none => pure both
  let after ← match a.value? "A" with
    | some text => number text
    | none => pure both
  return (before, after)

/-- The lines of a file, up to the last one that is wanted. -/
def searchedLines (q : Searching) (bytes : Bytes) : List FoundLine :=
  let ending := if q.asked.has "z" then '\x00' else '\n'
  let lines := linesEnded ending (Octets.ofBytes bytes)
  let step (acc : List FoundLine × Nat × Nat × Nat) (line : Octets) : List FoundLine × Nat × Nat × Nat :=
    let (done, number, offset, count) := acc
    let text := if line.getLast? = some ending then line.dropLast else line
    let isFull := q.limit.any (· ≤ count)
    let wanted := !isFull && q.search.isIn text != q.negated
    (⟨number + 1, offset, text, wanted⟩ :: done, number + 1, offset + line.length, if wanted then count + 1 else count)
  (lines.foldl step ([], 0, 0, 0)).1.reverse

/-- What is in front of a line. -/
def lineLead (q : Searching) (name : Option Octets) (l : FoundLine) (offset : Nat) : Octets :=
  let mark := if l.wanted then ':' else '-'
  (name.elim [] fun name => name ++ [if q.asked.has "Z" then '\x00' else mark])
    ++ (if q.asked.has "n" then Digits.ofNat l.number ++ [mark] else [])
    ++ (if q.asked.has "b" then Digits.ofNat offset ++ [mark] else [])

/-- Prints the lines of a file that are wanted, with those around them. -/
def showLines (q : Searching) (name : Option Octets) (run : SearchRun) (lines : List FoundLine) : SearchRun :=
  let ending := if q.asked.has "z" then '\x00' else '\n'
  let isNear (l : FoundLine) : Bool :=
    lines.any fun m => m.wanted && l.number ≤ m.number + q.after && m.number ≤ l.number + q.before
  let near := if q.before = 0 && q.after = 0 then lines.filter (·.wanted) else lines.filter isNear
  let marksGaps := ["A", "B", "C"].any q.asked.has && !q.asked.has "no-group-separator"
  let (text, _, shown) := near.foldl (fun ((text : List Octets), (latest : Option Nat), (shown : Bool)) l =>
    let gap := if marksGaps && shown && latest ≠ some (l.number - 1) then ["--\n".toList] else []
    let line :=
      if q.asked.has "o" then
        if q.negated || !l.wanted then []
        else
          (q.search.matchesIn l.text l.text.length.succ 0).flatMap fun (start, stop) =>
            lineLead q name l (l.offset + start) ++ (l.text.drop start).take (stop - start) ++ [ending]
      else lineLead q name l l.offset ++ l.text ++ [ending]
    (line :: gap ++ text, some l.number, true)) ([], none, run.shown)
  { run with state := put run.state text.reverse.flatten, shown }

/-- Searches one file. -/
def searchFile (q : Searching) (withNames : Bool) (run : SearchRun) (file : Octets) : SearchRun :=
  let label := if file = ['-'] then (q.asked.value? "label").getD "(standard input)".toList else file
  match contentOf run.state 0 file with
  | .error e =>
    if q.asked.has "s" then { run with failed := true }
    else { run with state := tell run.state s!"{String.ofList label}: {e.wording}", failed := true }
  | .ok (bytes, s) =>
    let name := if withNames then some label else none
    let run := { run with state := s }
    let lines := searchedLines q bytes
    let count := (lines.filter (·.wanted)).length
    let run := { run with found := run.found || count ≠ 0 }
    let lead := name.elim [] fun name => name ++ [if q.asked.has "Z" then '\x00' else ':']
    let nameLine := label ++ [if q.asked.has "Z" then '\x00' else '\n']
    if q.asked.has "q" then run
    else if q.asked.has "l" then if count = 0 then run else { run with state := put s nameLine }
    else if q.asked.has "L" then if count = 0 then { run with state := put s nameLine } else run
    else if q.asked.has "c" then { run with state := put s (lead ++ Digits.ofNat count ++ ['\n']) }
    else if bytes.contains 0 && !q.asked.has "z" && !q.asked.has "a" then
      if count = 0 then run
      else { run with state := tell s s!"{String.ofList label}: binary file matches" }
    else showLines q name run lines

/-- The files in a directory and below it whose names are wanted. -/
def filesBelow (fuel : Nat) (s : State) (wanted : Octets → Bool) (file : Octets) (n : Nat) : List Octets :=
  match fuel with
  | 0 => []
  | fuel + 1 =>
    match s.disk.entryAt n with
    | .directory =>
      (s.namesIn n).flatMap fun name =>
        let inner := if file.isEmpty then name else within file name
        match s.disk.names[DiskName.mk n (Octets.toBytes name)]? with
        | some m =>
          match s.disk.entryAt m with
          | .directory => filesBelow fuel s wanted inner m
          | .file _ => if wanted name then [inner] else []
          | _ => []
        | none => []
    | _ => [file]

/-- The options of `grep`. -/
def searchForms : List OptionForm :=
  [.plain 'E' "extended-regexp", .plain 'F' "fixed-strings", .plain 'G' "basic-regexp", .plain 'P' "perl-regexp",
    .valued 'e' "regexp", .valued 'f' "file", ⟨['i', 'y'], ["ignore-case"], .without⟩, .plain 'v' "invert-match",
    .plain 'w' "word-regexp", .plain 'x' "line-regexp", .plain 'c' "count", .long "color" .maybe,
    .long "colour" .maybe, .plain 'L' "files-without-match", .plain 'l' "files-with-matches",
    .valued 'm' "max-count", .plain 'o' "only-matching", ⟨['q'], ["quiet", "silent"], .without⟩,
    .plain 's' "no-messages", .plain 'b' "byte-offset", .plain 'H' "with-filename", .plain 'h' "no-filename",
    .long "label" .withValue, .plain 'n' "line-number", .plain 'T' "initial-tab", .plain 'Z' "null",
    .valued 'A' "after-context", .valued 'B' "before-context", .valued 'C' "context", .plain 'a' "text",
    .valued 'd' "directories", .long "include" .withValue, .long "exclude" .withValue,
    ⟨['r', 'R'], ["recursive", "dereference-recursive"], .without⟩, .long "line-buffered" .without,
    .plain 'z' "null-data", .long "no-group-separator" .without]

/-- Says how a search is asked for. -/
def searchUsage (s : State) : State :=
  hint (s.mention "Usage: grep [OPTION]... PATTERNS [FILE]...\n".toList) 2

/-- The texts to look for: from options, from files, or the first operand; the rest are files. -/
def searchTexts (s : State) (a : Asked) : Except String (Option (List Octets × List Octets)) := do
  let given ← (a.flags.filter fun f => f.1 = "e" || f.1 = "f").mapM fun (key, value) =>
    if key = "e" then Except.ok (value.splitOn '\n')
    else
      match contentOf s 0 value with
      | .ok (bytes, _) => .ok ((linesOf (Octets.ofBytes bytes)).map bare)
      | .error e => .error s!"{String.ofList value}: {e.wording}"
  if a.has "e" || a.has "f" then return some (given.flatten, a.operands)
  match a.operands with
  | [] => return none
  | text :: files => return some (text.splitOn '\n', files)

/-- The expression for a text to look for. -/
def searchPattern (a : Asked) (text : Octets) : Except String Regex :=
  let isClass := text.head? = some '[' && text.getLast? = some ']' && (text.drop 1).head? = some ':'
    && (text.dropLast).getLast? = some ':'
  match a.last? ["E", "F", "G", "P"] with
  | some "F" => .ok (Search.literal text)
  | kind =>
    if isClass then .error "character class syntax is [[:space:]], not [:space:]"
    else
      match Regex.ofText (kind = some "E" || kind = some "P") text with
      | .ok (r, _) => .ok r
      | .error fault => .error fault.message

/-- Prints the lines in which expressions are found. -/
def grep (s : State) (args : List Octets) : State :=
  let args := args.map fun arg =>
    match arg with
    | '-' :: c :: digits => if (c :: digits).all Char.isDigit then "--context=".toList ++ c :: digits else arg
    | arg => arg
  match Asked.ofArgs searchForms true args with
  | .error fault => searchUsage (tell s fault.message)
  | .ok a =>
    let limit := a.value? "m"
    match contextOf a, searchTexts s a with
    | .error reason, _ | _, .error reason => failed s 2 reason
    | .ok _, .ok none => searchUsage s
    | .ok (before, after), .ok (some (texts, files)) =>
      match texts.mapM (searchPattern a) with
      | .error reason => failed s 2 reason
      | .ok patterns =>
        if limit.any fun text => (Arithmetic.readInt? text).isNone then failed s 2 "invalid max count"
        else
          let q : Searching :=
            { search := ⟨patterns, a.has "i", a.has "w", a.has "x"⟩, negated := a.has "v"
              limit := (limit.bind Arithmetic.readInt?).bind fun n => if n < 0 then none else some n.toNat
              before, after, asked := a }
          let includes := (a.flags.filter (·.1 = "include")).map fun f => Pattern.ofText f.2
          let excludes := (a.flags.filter (·.1 = "exclude")).map fun f => Pattern.ofText f.2
          let wanted (name : Octets) : Bool :=
            (includes.isEmpty || includes.any (·.accepts name)) && !excludes.any (·.accepts name)
          let files :=
            if !a.has "r" then if files.isEmpty then [['-']] else files
            else if files.isEmpty then filesBelow (s.disk.entries.size + 1) s wanted [] s.disk.cwd
            else files.flatMap fun file =>
              match s.entryOf? file true with
              | .ok n => filesBelow (s.disk.entries.size + 1) s wanted file n
              | .error _ => [file]
          let withNames := match a.last? ["h", "H"] with
            | some key => key = "H"
            | none => 1 < files.length || a.has "r"
          let isDone (run : SearchRun) : Bool := a.has "q" && run.found
          let run := files.foldl (fun run file => if isDone run then run else searchFile q withNames run file)
            { state := s }
          run.state.withStatus (if isDone run then 0 else if run.failed then 2 else if run.found then 0 else 1)

end ProtoTree.Shell.Utility
