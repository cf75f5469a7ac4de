import ProtoTree.Path.Normal
import ProtoTree.Shell.Utility.Copying
import ProtoTree.Shell.Utility.Listing
import ProtoTree.Shell.Utility.Printing

/-! # Paths

Utilities that take paths apart, tell where they lead, and say what is there.
-/

namespace ProtoTree.Shell.Utility

open Text (Octets)

/-! ## Parts of paths -/

/-- A name without an ending, unless there is nothing else. -/
def withoutEnding (name ending : Octets) : Octets :=
  if ending.length < name.length && ending.reverse.isPrefixOf name.reverse then
    name.take (name.length - ending.length)
  else name

/-- What a program prints behind each of its answers. -/
def answerEnd (a : Asked) : Char := if a.has "z" then '\x00' else '\n'

/-- Prints the last names of paths. -/
def basename (s : State) (args : List Octets) : State :=
  let forms : List OptionForm := [.plain 'a' "multiple", .valued 's' "suffix", .plain 'z' "zero"]
  withLeadingArgs s 1 forms args fun a =>
    let answer (files : List Octets) (ending : Octets) : State :=
      put (s.withStatus 0) (files.flatMap fun file => withoutEnding (lastName file) ending ++ [answerEnd a])
    match a.operands with
    | [] => misused s "missing operand"
    | file :: rest =>
      if a.has "a" || a.has "s" then answer a.operands ((a.value? "s").getD [])
      else
        match rest with
        | [] => answer [file] []
        | [ending] => answer [file] ending
        | _ :: extra :: _ => misused s s!"extra operand {cited extra}"

/-- Prints paths without their last names. -/
def dirname (s : State) (args : List Octets) : State :=
  withLeadingArgs s 1 [.plain 'z' "zero"] args fun a =>
    if a.operands.isEmpty then misused s "missing operand"
    else put (s.withStatus 0) (a.operands.flatMap fun file => above file ++ [answerEnd a])

/-! ## Where paths lead -/

/-- How much of a path has to be there. -/
inductive Presence where
  | all
  | allButLast
  | nothing
  deriving DecidableEq, Repr, Inhabited

/-- The absolute path that names lead to, without looking at what is there. -/
def plainPath (dir : Octets) (names : List Octets) : Octets :=
  let absolute := Path.absolutize (State.path (['/'].intercalate names)) (State.path dir)
  Octets.ofBytes absolute.normalize.bytes

/-- The absolute path that names lead to, through links as far as there is something. -/
def pathThrough (s : State) (absolute : Bool) (names : List Octets) (count : Nat) : Octets :=
  let start := (names.take count)
  let file := (if absolute then ['/'] else ['.', '/']) ++ ['/'].intercalate start
  let rest := names.drop count
  match s.disk.spot? (State.path file) true, count with
  | .ok (.entry n), _ => plainPath (s.placeOf n) rest
  | .ok (.vacant name), _ => plainPath (within (s.placeOf name.directory) (Octets.ofBytes name.bytes)) rest
  | .error _, 0 => plainPath ['/'] rest
  | .error _, count + 1 => pathThrough s absolute names count

/-- The absolute path without links that a path leads to. -/
def resolved (s : State) (presence : Presence) (file : Octets) : Except SystemError Octets :=
  if file.isEmpty then .error .notFound
  else
    match s.disk.spot? (State.path file) true with
    | .ok (.entry n) => .ok (s.placeOf n)
    | .ok (.vacant name) =>
      if presence = .all then .error .notFound
      else .ok (within (s.placeOf name.directory) (Octets.ofBytes name.bytes))
    | .error e =>
      if presence ≠ .nothing then .error e
      else
        let names := file.splitOn '/'
        .ok (pathThrough s (file.head? = some '/') names names.length)

/-- How much has to be there, by the last of some options. -/
def presenceOf (a : Asked) (otherwise : Presence) : Presence :=
  match a.last? ["f", "e", "m"] with
  | some "f" => .allButLast
  | some "e" => .all
  | some _ => .nothing
  | none => otherwise

/-- Prints what links lead to. -/
def readlink (s : State) (args : List Octets) : State :=
  let forms : List OptionForm :=
    [.plain 'f' "canonicalize", .plain 'e' "canonicalize-existing", .plain 'm' "canonicalize-missing",
      .plain 'n' "no-newline", ⟨['q'], ["quiet"], .without⟩, ⟨['s'], ["silent"], .without⟩, .plain 'v' "verbose",
      .plain 'z' "zero"]
  withArgs s 1 forms args fun a =>
    if a.operands.isEmpty then misused s "missing operand"
    else
      let many := 1 < a.operands.length
      let s := if many && a.has "n" then tell s "ignoring --no-newline with multiple arguments" else s
      let ending := if a.has "n" && !many then [] else [answerEnd a]
      let goalOf (file : Octets) : Except SystemError Octets :=
        match s.entryOf? file false with
        | .error e => .error e
        | .ok n =>
          match s.disk.entryAt n with
          | .link goal => .ok (Octets.ofBytes goal.bytes)
          | _ => .error (.number 22)
      a.operands.foldl (fun s file =>
        let found := if (a.last? ["f", "e", "m"]).isSome then resolved s (presenceOf a .all) file else goalOf file
        match found with
        | .ok text => put s (text ++ ending)
        | .error e =>
          if a.last? ["q", "s", "v"] = some "v" then failed s 1 (plainRefusal file e) else s.withStatus 1)
        (s.withStatus 0)

/-- Whether a path leads to some directory or below it, and both are absolute. -/
def isWithin (dir file : Octets) : Bool := dir = file || (within dir []).isPrefixOf file

/-- The names in an absolute path. -/
def namesOf (file : Octets) : List Octets := (file.splitOn '/').filter (!·.isEmpty)

/-- Prints absolute paths without links, or as they are to be written in another directory. -/
def realpath (s : State) (args : List Octets) : State :=
  let forms : List OptionForm :=
    [.plain 'e' "canonicalize-existing", .plain 'm' "canonicalize-missing", .plain 'L' "logical",
      .plain 'P' "physical", .plain 'q' "quiet", ⟨['s'], ["strip", "no-symlinks"], .without⟩, .plain 'z' "zero",
      .long "relative-to" .withValue, .long "relative-base" .withValue]
  withArgs s 1 forms args fun a =>
    let presence := presenceOf a .allButLast
    let absoluteOf (file : Octets) : Except SystemError Octets :=
      if file.isEmpty then .error .notFound
      else if a.has "s" then
        let plain := plainPath (s.placeOf s.disk.cwd) [file]
        match resolved s presence file with
        | .error e => if presence = .nothing then .ok plain else .error e
        | .ok _ => .ok plain
      else resolved s presence file
    let bases := [a.value? "relative-to", a.value? "relative-base"].map (·.map fun dir => (dir, absoluteOf dir))
    let fault := bases.findSome? fun base =>
      match base with
      | some (dir, .error e) => some (plainRefusal dir e)
      | _ => none
    let baseAt (i : Nat) : Option Octets := ((bases[i]?).join).bind fun base => base.2.toOption
    if a.operands.isEmpty then misused s "missing operand"
    else
      match fault with
      | some text => failed s 1 text
      | none =>
        let shown (file : Octets) : Octets :=
          let below := baseAt 1
          let dir := (baseAt 0).or below
          match dir with
          | none => file
          | some dir =>
            if below.all fun base => isWithin base file && isWithin base dir then
              relativeTo (namesOf dir) (namesOf file)
            else file
        a.operands.foldl (fun s file =>
          match absoluteOf file with
          | .ok text => put s (shown text ++ [answerEnd a])
          | .error e => if a.has "q" then s.withStatus 1 else failed s 1 (plainRefusal file e)) (s.withStatus 0)

/-- Whether a path leads to the current directory and has no parts that lead nowhere else. -/
def namesHere (s : State) (dir : Octets) : Bool :=
  dir.head? = some '/' && !((dir.splitOn '/').any fun part => part = ['.'] || part = ['.', '.'])
    && (s.entryOf? dir true).toOption = some s.disk.cwd

/-- Prints the current directory, as it was spelled only if that is asked for. -/
def pwd (s : State) (args : List Octets) : State :=
  withArgs s 1 [.plain 'L' "logical", .plain 'P' "physical"] args fun a =>
    let s := if a.operands.isEmpty then s else tell s "ignoring non-option arguments"
    let strict := (s.binding? "POSIXLY_CORRECT".toList).isSome
    let asSpelled := (a.last? ["L", "P"]).elim strict (· = "L")
    let spelled := (s.valueOf? "PWD".toList).filter fun dir => asSpelled && namesHere s dir
    put (s.withStatus 0) (spelled.getD (s.placeOf s.disk.cwd) ++ ['\n'])

/-! ## What is there -/

/-- A kind of entry in words. -/
def kindName (entry : DiskEntry) : String :=
  match entry with
  | .directory => "directory"
  | .link _ => "symbolic link"
  | .device _ => "character special file"
  | .file [] => "regular empty file"
  | _ => "regular file"

/-- A fact about an entry, as a letter asks for it. -/
def factOf (s : State) (file : Octets) (n : Nat) (letter : Char) : Octets :=
  let entry := s.disk.entryAt n
  let hex (m : Nat) : Octets := Nat.toDigits 16 m
  let kindBits := match entry with
    | .directory => 0o40000
    | .link _ => 0o120000
    | .device _ => 0o20000
    | _ => 0o100000
  let stamp := s.stampOf n
  match letter with
  | 'n' => file
  | 'N' =>
    match entry with
    | .link goal => (quoted file ++ " -> " ++ quoted (Octets.ofBytes goal.bytes)).toList
    | _ => (quoted file).toList
  | 's' => Digits.ofNat (sizeOf s n)
  | 'a' =>
    let digits := (modeDigits (s.disk.modeOf n)).dropWhile (· == '0')
    if digits.isEmpty then ['0'] else digits
  | 'A' => kindLetter entry :: modeLetters (s.disk.modeOf n)
  | 'f' => hex (kindBits + s.disk.modeOf n)
  | 'F' => (kindName entry).toList
  | 'U' | 'G' => "root".toList
  | 'u' | 'g' | 't' | 'T' => ['0']
  | 'h' => Digits.ofNat (linksOf s n)
  | 'i' => Digits.ofNat (n + 1)
  | 'b' => Digits.ofNat (2 * blocksOf s n)
  | 'B' => "512".toList
  | 'o' => "4096".toList
  | 'Y' | 'X' | 'Z' | 'W' => Digits.ofInt (stamp.fdiv 1000000000)
  | 'x' | 'y' | 'z' | 'w' => Date.shown stamp "%Y-%m-%d %T.%N %z".toList
  | '%' => ['%']
  | _ => ['?']

/-- Facts as a format asks for them; escapes count only in some. -/
def factsBy (fuel : Nat) (escapes : Bool) (s : State) (file : Octets) (n : Nat) (format : Octets) : Octets :=
  match fuel, format with
  | 0, _ | _, [] => []
  | _ + 1, ['%'] => ['%']
  | fuel + 1, '%' :: rest =>
    let flags := rest.takeWhile "-0#+ ".toList.contains
    let rest := rest.drop flags.length
    let width := rest.takeWhile Char.isDigit
    let rest := rest.drop width.length
    let text := factOf s file n (rest.headD '%')
    let missing := List.replicate (Digits.value width - text.length) ' '
    let filled :=
      if flags.contains '-' then text ++ missing
      else if flags.contains '0' && text.all Char.isDigit then missing.map (fun _ => '0') ++ text
      else missing ++ text
    filled ++ factsBy fuel escapes s file n rest.tail
  | fuel + 1, c :: rest =>
    if c == '\\' && escapes then
      let (b, rest) := match rest with
        | e :: after =>
          if Digits.isOctal e then byteOf 8 3 Digits.isOctal rest
          else ((Print.controlEscapes.lookup e).getD e, after)
        | [] => ('\\', [])
      b :: factsBy fuel escapes s file n rest
    else c :: factsBy fuel escapes s file n rest

/-- All facts about an entry. -/
def factsFormat : String :=
  "  File: %N\n  Size: %-10s\tBlocks: %-10b IO Block: %-6o %F\nDevice: 0,1\tInode: %-11i Links: %h\n"
    ++ "Access: (0%a/%A)  Uid: (    0/    root)   Gid: (    0/    root)\n"
    ++ "Access: %x\nModify: %y\nChange: %z\n Birth: %w\n"

/-- Prints facts about entries. -/
def stat (s : State) (args : List Octets) : State :=
  let forms : List OptionForm :=
    [.plain 'L' "dereference", .valued 'c' "format", .long "printf" .withValue, .plain 't' "terse",
      .plain 'f' "file-system", .long "cached" .withValue]
  withArgs s 1 forms args fun a =>
    if a.operands.isEmpty then misused s "missing operand"
    else
      let escapes := a.has "printf"
      let format := match a.last? ["c", "printf"] with
        | some key => (a.value? key).getD [] ++ if escapes then [] else ['\n']
        | none => factsFormat.toList
      a.operands.foldl (fun s file =>
        match s.entryOf? file (a.has "L") with
        | .ok n => put s (factsBy format.length.succ escapes s file n format)
        | .error e => failed s 1 s!"cannot statx {quoted file}: {e.wording}") (s.withStatus 0)

/-! ## New names -/

/-- Letters and digits that no name was given yet. -/
def freshLetters (count seed : Nat) : Octets :=
  let letters := "abcdefghijklmnopqrstuvwxyzABCDEFGHIJKLMNOPQRSTUVWXYZ0123456789".toList
  (List.range count).map fun i => letters.getD ((seed * 7919 + i * i * 31 + i * 17) / (i + 1) % 62) 'a'

/-- Makes a file or a directory with a new name. -/
def mktemp (s : State) (args : List Octets) : State :=
  let forms : List OptionForm :=
    [.plain 'd' "directory", .plain 'u' "dry-run", .plain 'q' "quiet", .long "suffix" .withValue,
      ⟨['p'], [], .withValue⟩, .long "tmpdir" .maybe, .plain 't' ""]
  withArgs s 1 forms args fun a =>
    match a.operands with
    | _ :: _ :: _ => misused s "too many templates"
    | operands =>
      let template := operands.headD "tmp.XXXXXXXXXX".toList
      let below := operands.isEmpty || a.has "p" || a.has "tmpdir" || a.has "t"
      let chosen := ((a.value? "p").or (a.value? "tmpdir")).filter (!·.isEmpty)
      let dir := (chosen.or ((s.valueOf? "TMPDIR".toList).filter (!·.isEmpty))).getD "/tmp".toList
      let ending := (template.reverse.takeWhile (· != 'X')).reverse
      let (ending, start) := match a.value? "suffix" with
        | some ending => (ending, template)
        | none => (ending, template.take (template.length - ending.length))
      let count := (start.reverse.takeWhile (· == 'X')).length
      if a.has "suffix" && template.getLast? ≠ some 'X' then
        failed s 1 s!"with --suffix, template {quoted template} must end in X"
      else if count < 3 then failed s 1 s!"too few X's in template {quoted template}"
      else if ending.contains '/' then failed s 1 s!"invalid suffix {quoted ending}, contains directory separator"
      else if a.has "t" && template.contains '/' then
        failed s 1 s!"invalid template, {quoted template}, contains directory separator"
      else
        let (seed, s) := s.issue
        let stem := start.take (start.length - count)
        let whole (letters : Octets) : Octets :=
          let name := stem ++ letters ++ ending
          if below then within dir name else name
        let file := whole (freshLetters count seed)
        let kind := if a.has "d" then "directory" else "file"
        let shown := quoted (whole (List.replicate count 'X'))
        let refuse (e : SystemError) : State :=
          if a.has "q" then s.withStatus 1
          else failed s 1 s!"failed to create {kind} via template {shown}: {e.wording}"
        match s.disk.nameSpot? (State.path file) with
        | .error e => refuse e
        | .ok (.entry _) => refuse .alreadyExists
        | .ok (.vacant name) =>
          let s := if a.has "u" then s
            else if a.has "d" then s.makeEntry name .directory 0o700
            else s.makeEntry name (.file []) 0o600
          put (s.withStatus 0) (file ++ ['\n'])

end ProtoTree.Shell.Utility
