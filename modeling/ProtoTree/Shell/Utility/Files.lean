import ProtoTree.Shell.Utility.Mode
import ProtoTree.Shell.Utility.Reading

/-! # Making and removing files

Utilities that make directories and files, take them away, and change their
permissions.
-/

namespace ProtoTree.Shell.Utility

open Text (Bytes Octets)

/-! ## Paths -/

/-- A path without the separators at its end; one that is all separators keeps one. -/
def withoutTrail (file : Octets) : Octets :=
  let kept := dropEnd (· == '/') file
  if kept.isEmpty && !file.isEmpty then ['/'] else kept

/-- The last name in a path. -/
def lastName (file : Octets) : Octets :=
  let trimmed := dropEnd (· == '/') file
  if trimmed.isEmpty then if file.isEmpty then [] else ['/'] else (trimmed.splitOn '/').getLastD []

/-- A path with a name behind it. -/
def within (dir name : Octets) : Octets := if dir.getLast? = some '/' then dir ++ name else dir ++ '/' :: name

/-- The path without its last name. -/
def above (file : Octets) : Octets :=
  let behind := (dropEnd (· == '/') file).reverse.dropWhile (· != '/')
  let dir := dropEnd (· == '/') behind.reverse
  if !dir.isEmpty then dir else if file.head? = some '/' then ['/'] else ['.']

/-- The directory and the name that a path ends with. -/
def nameOf? (s : State) (file : Octets) : Except SystemError DiskName :=
  let trimmed := dropEnd (· == '/') file
  if file.isEmpty then .error .notFound
  else if trimmed.isEmpty then .error (.number 16)
  else
    match s.disk.directory (State.path (above file)) with
    | .ok dir => .ok ⟨dir, Octets.toBytes (lastName file)⟩
    | .error e => .error e

/-- Takes a name away. -/
def unlink (s : State) (file : Octets) : Except SystemError State :=
  (nameOf? s file).map fun name => s.withDisk (s.disk.unlink name)

/-- Prints a line about what was done, if that is asked for. -/
def report (s : State) (verbose : Bool) (text : String) : State :=
  if verbose then put s (text ++ "\n").toList else s

/-! ## Directories -/

/-- Makes one directory. -/
def makeDir (s : State) (dir : Octets) (mode : Nat) : Except SystemError State :=
  match s.disk.nameSpot? (State.path dir) with
  | .error e => .error e
  | .ok (.entry _) => .error .alreadyExists
  | .ok (.vacant name) => .ok (s.makeEntry name .directory mode)

/-- What is said about a directory that cannot be made. -/
def dirFault (s : State) (dir : Octets) (e : SystemError) : State :=
  failed s 1 s!"cannot create directory {quoted dir}: {e.wording}"

/-- The paths on the way to a directory. -/
def pathsTo (dir : Octets) : List Octets :=
  let starts := (List.range dir.length).filter fun i =>
    0 < i && dir[i]? = some '/' && dir[i - 1]? ≠ some '/' && (dir.drop i).any (· != '/')
  starts.map dir.take

/-- Makes the directories on the way to another one that are missing; the second result tells whether all are there. -/
def makeWay (s : State) (verbose : Bool) (dir : Octets) : State × Bool :=
  (pathsTo dir).foldl (fun (s, going) part =>
    if !going || s.isDir part then (s, going)
    else
      match makeDir s part 0o777 with
      | .ok s => (report s verbose s!"{String.ofList s.name}: created directory {quoted part}", true)
      | .error e =>
        let e := if e = .alreadyExists then .notDirectory else e
        (dirFault s part e, false)) (s, true)

/-- Makes directories. -/
def mkdir (s : State) (args : List Octets) : State :=
  let forms : List OptionForm := [.valued 'm' "mode", .plain 'p' "parents", .plain 'v' "verbose", .plain 'Z' ""]
  withArgs s 1 forms args fun a =>
    if a.operands.isEmpty then misused s "missing operand"
    else
      match (a.value? "m").filter fun text => (ModeChange.ofText? text).isNone with
      | some bad => failed s 1 s!"invalid mode {cited bad}"
      | none =>
        let changes := ((a.value? "m").bind ModeChange.ofText?).getD []
        let finish (s : State) (dir : Octets) : State :=
          let s := report s (a.has "v") s!"{String.ofList s.name}: created directory {quoted dir}"
          match s.entryOf? dir true with
          | .ok n =>
            if a.has "m" then s.withDisk (s.disk.setMode n (ModeChange.applyAll changes true s.mask 0o777)) else s
          | .error _ => s
        a.operands.foldl (fun s dir =>
          let (s, going) := if a.has "p" then makeWay s (a.has "v") dir else (s, true)
          if !going then s
          else
            match makeDir s dir 0o777 with
            | .ok s => finish s dir
            | .error e => if a.has "p" && e = .alreadyExists && s.isDir dir then s else dirFault s dir e)
          (s.withStatus 0)

/-- Takes one empty directory away. -/
def removeDir (s : State) (dir : Octets) : Except SystemError State :=
  if lastName dir = ['.'] then .error (.number 22)
  else if lastName dir = ['.', '.'] then .error (.number 39)
  else
    match s.entryOf? (withoutTrail dir) false with
    | .error e => .error e
    | .ok n =>
      if s.disk.entryAt n ≠ .directory then .error .notDirectory
      else if !(s.disk.listNames n).isEmpty then .error (.number 39)
      else unlink s dir

/-- Takes empty directories away. -/
def rmdir (s : State) (args : List Octets) : State :=
  let forms : List OptionForm :=
    [.plain 'p' "parents", .plain 'v' "verbose", .long "ignore-fail-on-non-empty" .without]
  withArgs s 1 forms args fun a =>
    if a.operands.isEmpty then misused s "missing operand"
    else
      let isPassed (e : SystemError) : Bool := e = .number 39 && a.has "ignore-fail-on-non-empty"
      let note (s : State) (dir : Octets) : State :=
        report s (a.has "v") s!"{String.ofList s.name}: removing directory, {quoted dir}"
      a.operands.foldl (fun s dir =>
        match removeDir (note s dir) dir with
        | .error e =>
          let s := note s dir
          if isPassed e then s else failed s 1 s!"failed to remove {quoted dir}: {e.wording}"
        | .ok s =>
          if !a.has "p" then s
          else
            ((pathsTo (withoutTrail dir)).reverse.foldl (fun (s, going) part =>
              if !going then (s, false)
              else
                match removeDir (note s part) part with
                | .ok s => (s, true)
                | .error e =>
                  let s := note s part
                  (if isPassed e then s else failed s 1 s!"failed to remove directory {quoted part}: {e.wording}",
                    false)) (s, true)).1) (s.withStatus 0)

/-! ## Removing files -/

/-- How files are to be removed. -/
structure Removal where
  force : Bool
  deep : Bool
  dirs : Bool
  verbose : Bool

/-- What is said about a file that cannot be removed. -/
def removeFault (s : State) (file : Octets) (e : SystemError) : State :=
  failed s 1 s!"cannot remove {quoted file}: {e.wording}"

/-- Removes one file or directory. -/
def removeOne (fuel : Nat) (r : Removal) (s : State) (file : Octets) : State :=
  match fuel with
  | 0 => s
  | fuel + 1 =>
    match s.entryOf? file false with
    | .error e => if r.force && (e = .notFound || e = .notDirectory) then s else removeFault s file e
    | .ok n =>
      if s.disk.entryAt n = .directory then
        if !r.deep && !r.dirs then removeFault s file .isDirectory
        else
          let s := if r.deep then (s.namesIn n).foldl (fun s name => removeOne fuel r s (within file name)) s else s
          match removeDir s file with
          | .ok s => report s r.verbose s!"removed directory {quoted file}"
          | .error e => removeFault s file e
      else
        match unlink s file with
        | .ok s => report s r.verbose s!"removed {quoted file}"
        | .error e => removeFault s file e

/-- Removes files and directories. -/
def rm (s : State) (args : List Octets) : State :=
  let forms : List OptionForm :=
    [.plain 'f' "force", ⟨['r', 'R'], ["recursive"], .without⟩, .plain 'd' "dir", .plain 'v' "verbose",
      .plain 'i' "", .plain 'I' "", .long "interactive" .maybe, .long "no-preserve-root" .without,
      .long "preserve-root" .maybe, .long "one-file-system" .without]
  withArgs s 1 forms args fun a =>
    let r : Removal := ⟨a.has "f", a.has "r", a.has "d", a.has "v"⟩
    if a.operands.isEmpty then if r.force then s.withStatus 0 else misused s "missing operand"
    else
      a.operands.foldl (fun s file =>
        let last := lastName file
        if r.deep && (last = ['.'] || last = ['.', '.']) then
          failed s 1 s!"refusing to remove '.' or '..' directory: skipping {quoted file}"
        else if r.deep && last = ['/'] then
          failed (tell s s!"it is dangerous to operate recursively on {quoted file}") 1
            "use --no-preserve-root to override this failsafe"
        else removeOne (s.disk.entries.size + 1) r s file) (s.withStatus 0)

/-- Removes one name. -/
def unlinkFile (s : State) (args : List Octets) : State :=
  withArgs s 1 [] args fun a =>
    match a.operands with
    | [] => misused s "missing operand"
    | [file] =>
      match s.entryOf? file false with
      | .error e => failed s 1 s!"cannot unlink {quoted file}: {e.wording}"
      | .ok n =>
        if s.disk.entryAt n = .directory then
          failed s 1 s!"cannot unlink {quoted file}: {SystemError.isDirectory.wording}"
        else
          match unlink s file with
          | .ok s => s.withStatus 0
          | .error e => failed s 1 s!"cannot unlink {quoted file}: {e.wording}"
    | _ :: extra :: _ => misused s s!"extra operand {cited extra}"

/-! ## Times and sizes -/

/-- The seconds since the start of 1970 of a day and a time. -/
def secondsOf (year month day hour minute second : Nat) : Int :=
  let y : Int := if month ≤ 2 then year - 1 else year
  let era := y.fdiv 400
  let ofEra := y - era * 400
  let ofYear : Int := (153 * ((month + 9) % 12) + 2) / 5 + day - 1
  let ofEraDay := ofEra * 365 + ofEra / 4 - ofEra / 100 + ofYear
  (era * 146097 + ofEraDay - 719468) * 86400 + hour * 3600 + minute * 60 + second

/-- The numbers that digits make, taken by their lengths. -/
def takeNumbers : List Nat → Octets → Option (List Nat)
  | [], cs => if cs.isEmpty then some [] else none
  | n :: rest, cs =>
    let digits := cs.take n
    if digits.length < n || !digits.all Char.isDigit then none
    else (takeNumbers rest (cs.drop n)).map (Digits.value digits :: ·)

/-- Whether the parts of a date are possible. -/
def isDate (month day hour minute second : Nat) : Bool :=
  1 ≤ month && month ≤ 12 && 1 ≤ day && day ≤ 31 && hour < 24 && minute < 60 && second ≤ 60

/-- The moment that is written in digits without anything between them, in nanoseconds. -/
def stampOfDigits? (cs : Octets) : Option Int :=
  let main := cs.takeWhile (· != '.')
  let seconds := if main.length < cs.length then takeNumbers [2] (cs.drop (main.length + 1)) else some [0]
  let ofParts (year : Nat) (parts : List Nat) (second : Nat) : Option Int :=
    match parts with
    | [month, day, hour, minute] =>
      if isDate month day hour minute second then
        some (secondsOf year month day hour minute second * 1000000000)
      else none
    | _ => none
  match seconds with
  | some [second] =>
    match main.length with
    | 8 => (takeNumbers [2, 2, 2, 2] main).bind (ofParts 2025 · second)
    | 10 => (takeNumbers [2, 2, 2, 2, 2] main).bind fun parts =>
      let year := parts.headD 0
      ofParts (if year < 69 then 2000 + year else 1900 + year) parts.tail second
    | 12 => (takeNumbers [4, 2, 2, 2, 2] main).bind fun parts => ofParts (parts.headD 0) parts.tail second
    | _ => none
  | _ => none

/-- The moment that a date in words is, in nanoseconds: seconds since 1970, or a day and perhaps a time. -/
def stampOfDate? (cs : Octets) : Option Int :=
  match cs with
  | '@' :: digits => (Arithmetic.readInt? digits).map (· * 1000000000)
  | cs =>
    let parts := (cs.map fun c => if c == 'T' then ' ' else c).splitOn ' '
    let numbers (text : Octets) (c : Char) : Option (List Nat) :=
      (text.splitOn c).mapM fun piece => if Digits.isNumber piece then some (Digits.value piece) else none
    let day := parts.head?.bind (numbers · '-')
    let time := match parts.tail with
      | [] => some [0, 0, 0]
      | [text] => numbers (text.takeWhile (· != 'Z')) ':'
      | [text, zone] => if zone = "UTC".toList then numbers text ':' else none
      | _ => none
    match day, time with
    | some [year, month, day], some (hour :: minute :: second) =>
      let second := second.headD 0
      if isDate month day hour minute second then
        some (secondsOf year month day hour minute second * 1000000000)
      else none
    | _, _ => none

/-- Gives an entry a time. -/
def setStamp (s : State) (n : Nat) (stamp : Int) : State :=
  s.withDisk { s.disk with stamps := s.disk.stamps.insert n stamp }

/-- Gives files the time of now or another one, and makes those that are not there. -/
def touch (s : State) (args : List Octets) : State :=
  let forms : List OptionForm :=
    [.plain 'a' "", .plain 'c' "no-create", .valued 'd' "date", .plain 'f' "", .plain 'h' "no-dereference",
      .plain 'm' "", .valued 'r' "reference", .valued 't' "", .long "time" .withValue]
  withArgs s 1 forms args fun a =>
    let given : Except String (Option Int) :=
      match a.value? "r", a.value? "t", a.value? "d" with
      | some file, _, _ =>
        match s.entryOf? file true with
        | .ok n => .ok (some (s.stampOf n))
        | .error e => .error s!"failed to get attributes of {quoted file}: {e.wording}"
      | none, some text, _ =>
        match stampOfDigits? text with
        | some stamp => .ok (some stamp)
        | none => .error s!"invalid date format {cited text}"
      | none, none, some text =>
        if text = "now".toList then .ok none
        else
          match stampOfDate? text with
          | some stamp => .ok (some stamp)
          | none => .error s!"invalid date format {cited text}"
      | none, none, none => .ok none
    match given with
    | .error reason => failed s 1 reason
    | .ok stamp =>
      if a.operands.isEmpty then misused s "missing file operand"
      else
        a.operands.foldl (fun s file =>
          let stamp := stamp.getD s.clock
          match s.entryOf? file (!a.has "h") with
          | .ok n => setStamp s n stamp
          | .error _ =>
            if a.has "c" || a.has "h" then s
            else
              match s.makeFile file with
              | .ok (n, s) => setStamp s n stamp
              | .error e =>
                if e = .isDirectory then failed s 1 s!"setting times of {quoted file}: {SystemError.notFound.wording}"
                else failed s 1 s!"cannot touch {quoted file}: {e.wording}") (s.withStatus 0)

/-- The size that a text asks for, given the size of now. -/
def newSize? (text : Octets) (size : Nat) : Option Nat :=
  match text with
  | '+' :: rest => (amount? rest).map (size + ·)
  | '-' :: rest => (amount? rest).map (size - ·)
  | '<' :: rest => (amount? rest).map (min size)
  | '>' :: rest => (amount? rest).map (max size)
  | '/' :: rest => (amount? rest).bind fun n => if n = 0 then none else some (size / n * n)
  | '%' :: rest => (amount? rest).bind fun n => if n = 0 then none else some ((size + n - 1) / n * n)
  | text => amount? text

/-- Makes files shorter or longer. -/
def truncate (s : State) (args : List Octets) : State :=
  let forms : List OptionForm :=
    [.valued 's' "size", .valued 'r' "reference", .plain 'c' "no-create", .plain 'o' "io-blocks"]
  withArgs s 1 forms args fun a =>
    let referred := (a.value? "r").bind fun file =>
      match s.statOf? file with
      | .ok (.file content) => some (Digits.ofNat content.length)
      | _ => none
    match (a.value? "s").or referred with
    | none => misused s "you must specify either '--size' or '--reference'"
    | some text =>
      if (newSize? text 0).isNone then failed s 1 s!"Invalid number: {cited text}"
      else if a.operands.isEmpty then misused s "missing file operand"
      else
        a.operands.foldl (fun s file =>
          let content := match s.statOf? file with
            | .ok (.file content) => some content
            | _ => none
          if content.isNone && a.has "c" then s
          else
            let before := content.getD []
            let size := (newSize? text before.length).getD 0
            match s.writeFile file (before.take size ++ List.replicate (size - before.length) 0) with
            | .ok s => s
            | .error e => failed s 1 s!"cannot open {quoted file} for writing: {e.wording}") (s.withStatus 0)

/-- Prints the input and writes it to files. -/
def tee (s : State) (args : List Octets) : State :=
  let forms : List OptionForm :=
    [.plain 'a' "append", .plain 'i' "ignore-interrupts", .plain 'p' "", .long "output-error" .maybe]
  withArgs s 1 forms args fun a =>
    let (bytes, s) := s.takeInput
    a.operands.foldl (fun s file =>
      let isOutput := match s.statOf? file with
        | .ok (.device name) => (["stdout", "stderr"].idxOf? name).map (· + 1)
        | _ => none
      match isOutput with
      | some descriptor => (s.write descriptor bytes).getD s
      | none =>
        let before := match s.statOf? file with
          | .ok (.file content) => if a.has "a" then content else []
          | _ => []
        match s.writeFile file (before ++ bytes) with
        | .ok s => s
        | .error e => failed s 1 (plainRefusal file e)) (putBytes (s.withStatus 0) bytes)

/-! ## Permissions -/

/-- A mode as messages show it. -/
def shownMode (mode : Nat) : String := s!"{String.ofList (modeDigits mode)} ({String.ofList (modeLetters mode)})"

/-- Changes the permissions of one entry, and of those below it if it is to go `deep`. -/
def changeMode (fuel : Nat) (a : Asked) (changeOf : Bool → Nat → Nat) (s : State) (file : Octets) (top : Bool) :
    State :=
  match fuel with
  | 0 => s
  | fuel + 1 =>
    let isQuiet := a.has "f"
    match s.entryOf? file top with
    | .error e =>
      if isQuiet then s.withStatus 1
      else if (s.entryOf? file false).isOk then failed s 1 s!"cannot operate on dangling symlink {quoted file}"
      else failed s 1 s!"cannot access {quoted file}: {e.wording}"
    | .ok n =>
      let entry := s.disk.entryAt n
      let isLink := match entry with
        | .link _ => true
        | _ => false
      if isLink then s
      else
        let before := s.disk.modeOf n
        let after := changeOf (entry = .directory) before
        let s := s.withDisk (s.disk.setMode n after)
        let s :=
          if after ≠ before && (a.has "v" || a.has "c") then
            report s true s!"mode of {quoted file} changed from {shownMode before} to {shownMode after}"
          else report s (a.has "v") s!"mode of {quoted file} retained as {shownMode after}"
        if a.has "R" && entry = .directory then
          (s.namesIn n).foldl (fun s name => changeMode fuel a changeOf s (within file name) false) s
        else s

/-- Changes permissions. -/
def chmod (s : State) (args : List Octets) : State :=
  let forms : List OptionForm :=
    [.plain 'R' "recursive", .plain 'c' "changes", ⟨['f'], ["quiet", "silent"], .without⟩, .plain 'v' "verbose",
      .long "reference" .withValue, .long "preserve-root" .without, .long "no-preserve-root" .without]
  let isMode (arg : Octets) : Bool :=
    match arg with
    | '-' :: c :: _ => "rwxXstugo0123456789=+,-".toList.contains c && c ≠ '-'
    | _ => false
  let given := (args.takeWhile (· ≠ ['-', '-'])).filter isMode
  let rest := (args.takeWhile (· ≠ ['-', '-'])).filter (!isMode ·) ++ args.dropWhile (· ≠ ['-', '-'])
  withArgs s 1 forms rest fun a =>
    let (mode, files) : Option Octets × List Octets :=
      if a.has "reference" then (none, a.operands)
      else if !given.isEmpty then (some ([','].intercalate given), a.operands)
      else (a.operands.head?, a.operands.tail)
    if !a.has "reference" && mode.isNone then misused s "missing operand"
    else if files.isEmpty then
      match mode with
      | some mode => misused s s!"missing operand after {cited (if given.isEmpty then mode else args.getLastD mode)}"
      | none => misused s "missing operand"
    else
      let run (changeOf : Bool → Nat → Nat) : State :=
        files.foldl (fun s file => changeMode (s.disk.entries.size + 1) a changeOf s file true) (s.withStatus 0)
      match mode with
      | some mode =>
        match ModeChange.ofText? mode with
        | some changes => run fun isDir before => ModeChange.applyAll changes isDir s.mask before
        | none => misused s s!"invalid mode: {cited mode}"
      | none =>
        let file := (a.value? "reference").getD []
        match s.entryOf? file true with
        | .ok n => run fun _ _ => s.disk.modeOf n
        | .error e => failed s 1 s!"failed to get attributes of {quoted file}: {e.wording}"

end ProtoTree.Shell.Utility
