import ProtoTree.Shell.Utility.Files

/-! # Copying, moving and linking

Utilities that give files other places or more names. What goes to a directory
keeps its last name there.
-/

namespace ProtoTree.Shell.Utility

open Text (Bytes Octets)

/-! ## Where things go -/

/-- What is to go where. -/
structure Destination where
  sources : List Octets
  target : Octets
  /-- The target is a directory that the sources go into. -/
  isDir : Bool

/-- Finds out where the operands are to go, or what is wrong with them; a link to a directory counts as one unless
    `asFile`. -/
def destination (s : State) (a : Asked) (asFile : Bool) : Except State Destination :=
  match a.value? "t" with
  | some dir =>
    if a.operands.isEmpty then .error (misused s "missing file operand")
    else
      match s.statOf? dir with
      | .ok .directory => .ok ⟨a.operands, dir, true⟩
      | .ok _ => .error (failed s 1 s!"target directory {quoted dir}: {SystemError.notDirectory.wording}")
      | .error e => .error (failed s 1 s!"target directory {quoted dir}: {e.wording}")
  | none =>
    match a.operands with
    | [] => .error (misused s "missing file operand")
    | [file] => .error (misused s s!"missing destination file operand after {quoted file}")
    | first :: second :: rest =>
      let target := rest.getLastD second
      let sources := (first :: second :: rest).dropLast
      if a.has "T" then
        match sources with
        | _ :: _ :: _ => .error (misused s s!"extra operand {quoted target}")
        | sources => .ok ⟨sources, target, false⟩
      else
        let isLink := match (s.entryOf? target false).toOption.map s.disk.entryAt with
          | some (.link _) => true
          | _ => false
        if s.isDir target && !(asFile && isLink) then .ok ⟨sources, target, true⟩
        else if sources.length = 1 then
          if target.getLast? = some '/' && 1 < target.length && (s.statOf? target).isOk then
            .error (failed s 1 s!"target {quoted target}: {SystemError.notDirectory.wording}")
          else .ok ⟨sources, target, false⟩
        else
          let e := match s.statOf? target with
            | .ok _ => SystemError.notDirectory
            | .error e => e
          .error (failed s 1 s!"target {quoted target}: {e.wording}")

/-- The options that tell where things go. -/
def destinationForms : List OptionForm :=
  [.valued 't' "target-directory", .plain 'T' "no-target-directory", .plain 'f' "force", .plain 'i' "interactive",
    .plain 'v' "verbose", .valued 'S' "suffix", .plain 'b' "", .long "backup" .maybe]

/-! ## Copying -/

/-- How files are to be copied. -/
structure Copying where
  deep : Bool
  /-- Links are followed. -/
  follows : Bool
  verbose : Bool
  /-- Files that are there are left alone, or those that are no older. -/
  keepsOld : Bool
  onlyNewer : Bool
  /-- Permissions and times are copied as well. -/
  preserves : Bool
  asks : Bool
  /-- Links are made instead of copies: of names, or of entries. -/
  linksNames : Bool
  linksEntries : Bool

/-- Whether the answer that is read from the input is yes; the question has been asked. -/
def confirmed (s : State) : Bool × State :=
  let bytes := (s.unread 0).getD []
  let line := bytes.takeWhile (· ≠ 10)
  let answer := (Octets.ofBytes line).head?
  (answer = some 'y' || answer = some 'Y', s.leaveUnread 0 (bytes.drop (line.length + 1)))

/-- Gives a copy the permissions and the time of what it was made of. -/
def copyMarks (s : State) (c : Copying) (source copy : Nat) : State :=
  if c.preserves then setStamp (s.withDisk (s.disk.setMode copy (s.disk.modeOf source))) copy (s.stampOf source)
  else s

/-- Whether something lies below a directory. -/
def isBelow (s : State) (dir : Nat) (file : Octets) : Bool :=
  match nameOf? s file with
  | .ok name => (s.disk.namesFrom dir s.disk.entries.size name.directory []).isSome
  | .error _ => false

/-- Copies one file or directory to a place; `top` is set for what was named. -/
def copyOne (fuel : Nat) (c : Copying) (top : Bool) (s : State) (source target : Octets) : State :=
  match fuel with
  | 0 => s
  | fuel + 1 =>
    match s.entryOf? source c.follows with
    | .error e => failed s 1 s!"cannot stat {quoted source}: {e.wording}"
    | .ok n =>
      let entry := s.disk.entryAt n
      let note (s : State) : State := report s c.verbose s!"{quoted source} -> {quoted target}"
      let old := (s.entryOf? target false).toOption
      let oldTarget := (s.entryOf? target true).toOption
      let seen := if c.follows || !(match entry with
          | .link _ => true
          | _ => false) then oldTarget else old
      let oldIsDir := (seen.map s.disk.entryAt) = some .directory
      if entry = .directory then
        if !c.deep then failed s 1 s!"-r not specified; omitting directory {quoted source}"
        else if seen.isSome && !oldIsDir then
          failed s 1 s!"cannot overwrite non-directory {quoted target} with directory {quoted source}"
        else if top && isBelow s n target then
          failed s 1 s!"cannot copy a directory, {quoted source}, into itself, {quoted target}"
        else
          let made : Except SystemError State :=
            if oldIsDir then .ok s
            else
              (nameOf? s target).map fun name =>
                note (s.makeEntry name .directory (s.disk.modeOf n ||| 0o700))
          match made with
          | .error e => failed s 1 s!"cannot create directory {quoted target}: {e.wording}"
          | .ok after =>
            let after := (s.namesIn n).foldl (fun s name =>
              copyOne fuel c false s (within source name) (within target name)) after
            match after.entryOf? target true with
            | .ok copy =>
              let after := if oldIsDir then after
                else after.withDisk (after.disk.setMode copy
                  (ModeChange.without (after.disk.modeOf n) (if c.preserves then 0 else after.mask)))
              copyMarks after c n copy
            | .error _ => after
      else if oldIsDir then
        failed s 1 s!"cannot overwrite directory {quoted target} with non-directory"
      else if c.keepsOld && old.isSome then s
      else if c.onlyNewer && oldTarget.any fun m => !decide (s.stampOf m < s.stampOf n) then s
      else if oldTarget = some n && !c.linksNames && !(c.linksEntries && old = some n) then
        failed s 1 s!"{quoted source} and {quoted target} are the same file"
      else
        let (going, s) :=
          if c.asks && old.isSome then
            confirmed (s.mention (s.name ++ s!": overwrite {quoted target}? ".toList))
          else (true, s)
        if !going then s
        else if c.linksNames || c.linksEntries then
          if old.isSome then
            let kind := if c.linksNames then "symbolic link" else "hard link"
            if old = some n then s
            else failed s 1 s!"cannot create {kind} {quoted target} to {quoted source}: File exists"
          else
            match nameOf? s target with
            | .ok name =>
              note (if c.linksNames then s.makeEntry name (.link (State.path source)) 0o777
                else s.withDisk (s.disk.addName name n))
            | .error e => failed s 1 s!"cannot create link {quoted target} to {quoted source}: {e.wording}"
        else
          let refused (e : SystemError) : State :=
            let e := if e = .isDirectory then .notDirectory else e
            failed s 1 s!"cannot create regular file {quoted target}: {e.wording}"
          match entry with
          | .link goal =>
            match nameOf? s target with
            | .error e => failed s 1 s!"cannot create symbolic link {quoted target}: {e.wording}"
            | .ok name => note ((s.withDisk (s.disk.unlink name)).makeEntry name (.link goal) 0o777)
          | entry =>
            let content : Bytes := match entry with
              | .file content => content
              | .device "stdin" => (s.unread 0).getD []
              | _ => []
            match old, oldTarget with
            | some _, none => failed s 1 s!"not writing through dangling symlink {quoted target}"
            | _, some m =>
              let s := note s
              match s.disk.entryAt m with
              | .device "stdout" => (s.write 1 content).getD s
              | .device "stderr" => (s.write 2 content).getD s
              | .device _ => s
              | _ => copyMarks (s.setContent m content) c n m
            | none, none =>
              if target.getLast? = some '/' then refused .isDirectory
              else
                match nameOf? s target with
                | .error e => refused e
                | .ok name =>
                  let copy := s.disk.entries.size
                  copyMarks ((note s).makeEntry name (.file content) (s.disk.modeOf n &&& 0o777)) c n copy

/-- Copies files and directories. -/
def cp (s : State) (args : List Octets) : State :=
  let forms := destinationForms ++
    [⟨['r', 'R'], ["recursive"], .without⟩, .plain 'a' "archive", .plain 'n' "no-clobber", .plain 'p' "",
      .long "preserve" .maybe, .plain 'P' "no-dereference", .plain 'L' "dereference", .plain 'H' "",
      .plain 'd' "", .plain 'l' "link", .plain 's' "symbolic-link", .plain 'u' "", .long "update" .maybe,
      .plain 'x' "one-file-system"]
  withArgs s 1 forms args fun a =>
    match destination s a false with
    | .error failed => failed
    | .ok d =>
      let deep := a.has "r" || a.has "a"
      let update := (a.value? "update").map String.ofList
      let last := a.last? ["f", "i", "n"]
      let c : Copying := {
        deep
        follows := a.has "L" || !(deep || a.has "P" || a.has "d")
        verbose := a.has "v"
        keepsOld := last = some "n" || update = some "none"
        onlyNewer := a.has "u" || update = some "older" || update = some ""
        preserves := a.has "p" || a.has "a" || a.has "preserve"
        asks := last = some "i", linksNames := a.has "s", linksEntries := a.has "l" }
      let s := if a.has "n" then
          tell s "warning: behavior of -n is non-portable and may change in future; use --update=none instead"
        else s
      d.sources.foldl (fun s source =>
        let base := lastName source
        let target :=
          if d.isDir then if base = ['.', '.'] then d.target else within d.target base else d.target
        copyOne (s.disk.entries.size + 1) c true s source target) (s.withStatus 0)

/-! ## Moving -/

/-- Moves one file or directory to a place. -/
def moveOne (verbose : Bool) (s : State) (source target : Octets) : State :=
  let refused (e : SystemError) : State :=
    failed s 1 s!"cannot move {quoted source} to {quoted target}: {e.wording}"
  match s.entryOf? (withoutTrail source) false with
  | .error e => failed s 1 s!"cannot stat {quoted source}: {e.wording}"
  | .ok n =>
    if source.getLast? = some '/' && !s.isDir source then
      failed s 1 s!"cannot stat {quoted source}: {SystemError.notDirectory.wording}"
    else
      let isDir := s.disk.entryAt n = .directory
      let old := (s.entryOf? (withoutTrail target) false).toOption
      let oldIsDir := (old.map s.disk.entryAt) = some .directory
      match nameOf? s source, nameOf? s target with
      | .ok name, .ok place =>
        if old = some n then failed s 1 s!"{quoted source} and {quoted target} are the same file"
        else if isDir && isBelow s n target then
          failed s 1 s!"cannot move {quoted source} to a subdirectory of itself, {quoted target}"
        else if old.isSome && isDir && !oldIsDir then
          failed s 1 s!"cannot overwrite non-directory {quoted target} with directory {quoted source}"
        else if oldIsDir && !isDir then
          failed s 1 s!"cannot overwrite directory {quoted target} with non-directory"
        else if oldIsDir && old.any fun m => !(s.disk.listNames m).isEmpty then
          failed s 1 s!"cannot overwrite {quoted target}: {(SystemError.number 39).wording}"
        else if old.isNone && target.getLast? = some '/' && !isDir then refused .notDirectory
        else
          report (s.withDisk (s.disk.rename name place n)) verbose s!"renamed {quoted source} -> {quoted target}"
      | .error e, _ | _, .error e => refused e

/-- Moves files and directories. -/
def mv (s : State) (args : List Octets) : State :=
  let forms := destinationForms ++
    [.plain 'n' "no-clobber", .plain 'u' "", .long "update" .maybe, .long "strip-trailing-slashes" .without]
  withArgs s 1 forms args fun a =>
    match destination s a false with
    | .error failed => failed
    | .ok d =>
      let last := a.last? ["f", "i", "n"]
      let update := (a.value? "update").map String.ofList
      let keepsOld := last = some "n" || update = some "none"
      let onlyNewer := a.has "u" || update = some "older" || update = some ""
      d.sources.foldl (fun s source =>
        let target := if d.isDir then within d.target (lastName source) else d.target
        let old := (s.entryOf? target false).toOption
        let isNewer := match s.entryOf? source false, old with
          | .ok n, some m => decide (s.stampOf m < s.stampOf n)
          | _, _ => true
        if old.isSome && (keepsOld || (onlyNewer && !isNewer)) then s
        else if last = some "i" && old.isSome then
          match confirmed (s.mention (s.name ++ s!": overwrite {quoted target}? ".toList)) with
          | (true, s) => moveOne (a.has "v") s source target
          | (false, s) => s
        else moveOne (a.has "v") s source target) (s.withStatus 0)

/-! ## Linking -/

/-- A path as it has to be written in a directory to lead to the same place. -/
def relativeTo (dir file : List Octets) : Octets :=
  let common := ((dir.zip file).takeWhile fun (a, b) => a = b).length
  let parts := List.replicate (dir.length - common) ['.', '.'] ++ file.drop common
  if parts.isEmpty then ['.'] else ['/'].intercalate parts

/-- The names on the way from the root to an entry. -/
def partsOf (s : State) (n : Nat) : List Octets := ((s.placeOf n).splitOn '/').filter (!·.isEmpty)

/-- Makes one link. -/
def linkOne (a : Asked) (s : State) (source target : Octets) : State :=
  let symbolic := a.has "s"
  let kind := if symbolic then "symbolic link" else "hard link"
  let old := (s.entryOf? target false).toOption
  let found := (s.entryOf? source (a.has "L")).toOption
  match s.entryOf? source (a.has "L"), symbolic with
  | .error e, false => failed s 1 s!"failed to access {quoted source}: {e.wording}"
  | _, _ =>
    if !symbolic && found.any fun n => s.disk.entryAt n = .directory then
      failed s 1 s!"{shownName source}: hard link not allowed for directory"
    else if (old.map s.disk.entryAt) = some .directory && a.has "f" then
      failed s 1 s!"{shownName target}: cannot overwrite directory"
    else if a.has "f" && old.isSome && (if symbolic then source = target else found = old) then
      failed s 1 s!"{quoted source} and {quoted target} are the same file"
    else
      match nameOf? s target with
      | .error e => failed s 1 s!"failed to create {kind} {quoted target}: {e.wording}"
      | .ok name =>
        if old.isSome && !a.has "f" then
          failed s 1 s!"failed to create {kind} {quoted target}: {SystemError.alreadyExists.wording}"
        else if old.isNone && target.getLast? = some '/' then
          failed s 1 s!"failed to create {kind} {quoted target}: {SystemError.notFound.wording}"
        else
          let s := s.withDisk (s.disk.unlink name)
          let goal :=
            if a.has "r" then
              match s.entryOf? source true with
              | .ok n => relativeTo (partsOf s name.directory) (partsOf s n)
              | .error _ => source
            else source
          let s :=
            if symbolic then s.makeEntry name (.link (State.path goal)) 0o777
            else
              match found with
              | some n => s.withDisk (s.disk.addName name n)
              | none => s
          report s (a.has "v") (quoted target ++ (if symbolic then " -> " else " => ") ++ quoted goal)

/-- Makes links. -/
def ln (s : State) (args : List Octets) : State :=
  let forms := destinationForms ++
    [.plain 's' "symbolic", .plain 'n' "no-dereference", .plain 'r' "relative", .plain 'L' "logical",
      .plain 'P' "physical", .plain 'd' "directory", .plain 'F' ""]
  withArgs s 1 forms args fun a =>
    match a.operands, a.value? "t", a.has "T" with
    | [source], none, false => linkOne a (s.withStatus 0) source (within ['.'] (lastName source))
    | _, _, _ =>
      match destination s a (a.has "n") with
      | .error failed => failed
      | .ok d =>
        d.sources.foldl (fun s source =>
          linkOne a s source (if d.isDir then within d.target (lastName source) else d.target)) (s.withStatus 0)

end ProtoTree.Shell.Utility
