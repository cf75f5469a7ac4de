import ProtoTree.FileSystem.Basic
import Std.Data.HashMap

/-! # Disks

A file system with symbolic links, executable files and the system's own
error numbers. Its entries are numbered; each but the root is found in a
directory by its name, and a path is followed through links, name by name.
-/

namespace ProtoTree

open Text (Bytes)

/-- What is on a disk under a number. -/
inductive DiskEntry where
  | file (content : Bytes)
  | directory
  | link (target : Path)
  /-- An executable that belongs to the system. -/
  | program (name : String)
  /-- Something that is read and written but holds nothing. -/
  | device (name : String)
  deriving DecidableEq, Repr, Inhabited

namespace DiskEntry

def isFile : DiskEntry → Bool
  | file _ | program _ => true
  | _ => false

/-- The permissions of an entry that was given none: links have all of them, files can be read by everyone and
    written by their owner, and what is no file can be entered or run as well. -/
def usualMode : DiskEntry → Nat
  | file _ => 0o644
  | link _ => 0o777
  | device _ => 0o666
  | _ => 0o755

end DiskEntry

/-- A directory and a name in it. -/
structure DiskName where
  directory : Nat
  bytes : Bytes
  deriving DecidableEq, Repr, Inhabited

instance : Hashable DiskName where
  hash name := mixHash (hash name.directory) (Component.hashOf name.bytes)

/-- A disk with a current directory. The root is number 0. -/
structure Disk where
  entries : Array DiskEntry
  /-- The permissions of the entries. -/
  modes : Array Nat
  /-- The directory and name under which each entry was made or last moved to. -/
  homes : Array DiskName
  /-- What the names in directories stand for. -/
  names : Std.HashMap DiskName Nat
  cwd : Nat
  /-- When entries were changed, if that is known. -/
  stamps : Std.HashMap Nat Int
  deriving Inhabited

/-- What a path leads to. -/
inductive DiskSpot where
  | entry (number : Nat)
  /-- A name that is free in a directory. -/
  | vacant (name : DiskName)
  deriving DecidableEq, Repr, Inhabited

namespace Disk

open Path (slash dot)

def root : Nat := 0

/-- A disk with a root directory alone. -/
def empty : Disk := ⟨#[.directory], #[0o755], #[⟨root, []⟩], ∅, root, ∅⟩

/-- How many links one path may lead through. -/
def linkLimit : Nat := 40

/-- How many bytes a name may have. -/
def nameLimit : Nat := 255

/-- How many bytes a path may have. -/
def pathLimit : Nat := 4095

/-- The entry of a number. -/
def entryAt (d : Disk) (n : Nat) : DiskEntry := d.entries.getD n .directory

/-- The permissions of an entry. -/
def modeOf (d : Disk) (n : Nat) : Nat := d.modes.getD n 0

/-- Whether an entry is a file that can be run. -/
def isExecutable (d : Disk) (n : Nat) : Bool :=
  match d.entryAt n with
  | .file _ => d.modeOf n &&& 0o111 ≠ 0
  | .program _ => true
  | _ => false

/-- The directory and name of an entry. -/
def homeOf (d : Disk) (n : Nat) : DiskName := d.homes.getD n ⟨root, []⟩

/-- The names on the way from `dir` down to an entry, put in front of `below`. -/
def namesFrom (d : Disk) (dir : Nat) (steps n : Nat) (below : List Bytes) :
    Option (List Bytes) :=
  if n = dir then some below
  else
    match steps with
    | 0 => none
    | steps + 1 =>
      if n = root then none
      else d.namesFrom dir steps (d.homeOf n).directory ((d.homeOf n).bytes :: below)

/-- The absolute path of an entry. -/
def pathOf (d : Disk) (n : Nat) : Path :=
  ⟨slash :: [slash].intercalate ((d.namesFrom root d.entries.size n []).getD [])⟩

/-- Replaces an entry. -/
def setEntry (d : Disk) (n : Nat) (entry : DiskEntry) : Disk :=
  { d with entries := d.entries.setIfInBounds n entry }

/-- Changes the permissions of an entry. -/
def setMode (d : Disk) (n mode : Nat) : Disk := { d with modes := d.modes.setIfInBounds n mode }

/-- Makes an entry with permissions under a name. -/
def makeWith (d : Disk) (name : DiskName) (entry : DiskEntry) (mode : Nat) : Disk :=
  { d with
    entries := d.entries.push entry, modes := d.modes.push mode, homes := d.homes.push name
    names := d.names.insert name d.entries.size }

/-- Makes an entry with the usual permissions under a name. -/
def make (d : Disk) (name : DiskName) (entry : DiskEntry) : Disk := d.makeWith name entry entry.usualMode

/-- Takes a name out of its directory. -/
def unlink (d : Disk) (name : DiskName) : Disk := { d with names := d.names.erase name }

/-- Lets another name stand for what one name has stood for. -/
def rename (d : Disk) (before after : DiskName) (n : Nat) : Disk :=
  { d with
    homes := if d.homeOf n = before then d.homes.setIfInBounds n after else d.homes
    names := (d.names.erase before).insert after n }

/-- Lets one more name stand for an entry. -/
def addName (d : Disk) (name : DiskName) (n : Nat) : Disk := { d with names := d.names.insert name n }

/-- Goes from a directory along the parts of a path, through at most `links` links. A last part that does not
    exist is a vacant spot, and a link there is followed only if `followLast`. -/
def walk (d : Disk) (followLast : Bool) (links : Nat) (here : Nat) (parts : List Bytes) :
    Except SystemError DiskSpot :=
  match parts with
  | [] => .ok (.entry here)
  | part :: rest =>
    match d.entryAt here with
    | .directory =>
      if part = [] ∨ part = [dot] then d.walk followLast links here rest
      else if part = [dot, dot] then d.walk followLast links (d.homeOf here).directory rest
      else if nameLimit < part.length then .error .nameTooLong
      else
        match d.names[DiskName.mk here part]? with
        | none => if rest.all List.isEmpty then .ok (.vacant ⟨here, part⟩) else .error .notFound
        | some n =>
          match d.entryAt n with
          | .link target =>
            if rest = [] ∧ !followLast then .ok (.entry n)
            else
              match links with
              | 0 => .error .tooManyLinks
              | left + 1 =>
                d.walk followLast left (if target.isAbsolute then root else here)
                  (target.segments ++ rest)
          | _ => d.walk followLast links n rest
    | _ => .error .notDirectory
termination_by (links, parts.length)

/-- Why a path cannot lead anywhere, whatever is on the disk. -/
def fault? (p : Path) : Option SystemError :=
  if p.bytes.contains 0 then some .zeroInPath
  else if p.isEmpty then some .notFound
  else if pathLimit < p.bytes.length then some .nameTooLong
  else none

/-- Where a path starts. -/
def start (d : Disk) (p : Path) : Nat := if p.isAbsolute then root else d.cwd

/-- The spot that a path leads to. -/
def spot? (d : Disk) (p : Path) (followLast : Bool) : Except SystemError DiskSpot :=
  match fault? p with
  | some e => .error e
  | none => d.walk followLast linkLimit (d.start p) p.segments

/-- A path without the separators at its end. -/
def withoutTrail (p : Path) : Path := ⟨(p.bytes.reverse.dropWhile (· == slash)).reverse⟩

/-- The spot where a name is to be made or taken away. A link at the end of the path is not followed, not even
    with separators behind it. -/
def nameSpot? (d : Disk) (p : Path) : Except SystemError DiskSpot :=
  match fault? p with
  | some e => .error e
  | none => d.walk false linkLimit (d.start p) (withoutTrail p).segments

/-- The number that a path leads to. -/
def numberOf? (d : Disk) (p : Path) (followLast : Bool) : Except SystemError Nat :=
  match d.spot? p followLast with
  | .error e => .error e
  | .ok (.entry n) => .ok n
  | .ok (.vacant _) => .error .notFound

/-- The entry that a path leads to, through all links. -/
def stat (d : Disk) (p : Path) : Except SystemError DiskEntry :=
  match d.numberOf? p true with
  | .ok n => .ok (d.entryAt n)
  | .error e => .error e

def isFile (d : Disk) (p : Path) : Bool :=
  match d.stat p with
  | .ok entry => entry.isFile
  | .error _ => false

def isDir (d : Disk) (p : Path) : Bool :=
  match d.stat p with
  | .ok .directory => true
  | _ => false

/-- The content of the file that a path leads to. -/
def content (d : Disk) (p : Path) : Except SystemError Bytes :=
  match d.stat p with
  | .error e => .error e
  | .ok (.file bytes) => .ok bytes
  | .ok .directory => .error .isDirectory
  | .ok _ => .ok []

/-- The number of the directory that a path leads to. -/
def directory (d : Disk) (p : Path) : Except SystemError Nat :=
  match d.numberOf? p true with
  | .error e => .error e
  | .ok n => if d.entryAt n = .directory then .ok n else .error .notDirectory

/-- Every name on the disk with its entry. -/
def named (d : Disk) : List (DiskName × Nat) := d.names.toList

/-- The names in a directory, in order. -/
def listNames (d : Disk) (dir : Nat) : List Bytes :=
  (d.named.filterMap fun (name, _) => if name.directory = dir then some name.bytes else none).mergeSort
    fun a b => !decide (b < a)

/-- Everything below a directory that is no directory, with the names that lead to it. -/
def below (d : Disk) (dir : Nat) : List (List Bytes × DiskEntry) :=
  d.named.filterMap fun (_, n) =>
    if d.entryAt n = .directory then none
    else (d.namesFrom dir d.entries.size n []).map fun names => (names, d.entryAt n)

/-- Every entry below a directory, with the names that lead to it, those nearer to the directory first. -/
def tree (d : Disk) (dir : Nat) : List (List Bytes × DiskEntry) :=
  (d.named.filterMap fun (name, n) =>
    if n = dir then none
    else (d.namesFrom dir d.entries.size name.directory [name.bytes]).map fun names =>
      (names, d.entryAt n)).mergeSort fun a b => a.1.length ≤ b.1.length

/-- The path that stands for the standard input where a walk is to start. -/
def standardInput : Path := .ofString "-"

/-- Every file below a directory, and every link there that leads to a file. Links to directories are not entered,
    and a walk that starts at the standard input finds nothing. -/
def filesBelow (d : Disk) (dir : Path) : Except SystemError (List Path) :=
  match d.directory dir with
  | .error e => .error e
  | .ok n =>
    if dir.Same standardInput then .ok []
    else .ok <| (d.below n).filterMap fun (names, entry) =>
      let path := names.foldl (fun p name => p.join ⟨name⟩) dir
      if entry.isFile || d.isFile path then some path else none

/-- Makes one directory. -/
def makeDir (d : Disk) (p : Path) : Except SystemError Unit × Disk :=
  match d.nameSpot? p with
  | .error e => (.error e, d)
  | .ok (.entry _) => (.error .alreadyExists, d)
  | .ok (.vacant name) => (.ok (), d.make name .directory)

/-- Makes a directory unless it is there. -/
def ensureDir (d : Disk) (p : Path) : Except SystemError Unit × Disk :=
  match d.makeDir p with
  | (.ok _, made) => (.ok (), made)
  | (.error e, left) => if left.isDir p then (.ok (), left) else (.error e, left)

/-- Makes a directory after the directories above it, at most `levels` of them. -/
def makeDirs (d : Disk) (p : Path) : Nat → Except SystemError Unit × Disk
  | 0 => (.error .notFound, d)
  | levels + 1 =>
    if p.isEmpty then (.ok (), d)
    else
      match d.makeDir p with
      | (.ok _, made) => (.ok (), made)
      | (.error e, left) =>
        if e ≠ .notFound then left.ensureDir p
        else
          match p.parent? with
          | none => (.error .notFound, left)
          | some dir =>
            match left.makeDirs dir levels with
            | (.error e, left) => (.error e, left)
            | (.ok _, above) => above.ensureDir p

/-- Makes a directory and the directories above it that are missing. Those that are made stay, also when a later
    one cannot be made. -/
def makeAllDirs (d : Disk) (p : Path) : Except SystemError Unit × Disk :=
  d.makeDirs p (p.components.length + 1)

/-- Puts an entry where a path leads; links on the way are followed, one at the end only if `followLast`. A
    directory that is there stays. -/
def put (d : Disk) (p : Path) (entry : DiskEntry) (followLast : Bool) : Disk :=
  let ready := match p.parent? with
    | some dir => (d.makeAllDirs dir).2
    | none => d
  match ready.spot? p followLast with
  | .ok (.entry n) => if ready.entryAt n = .directory then ready else ready.setEntry n entry
  | .ok (.vacant name) => ready.make name entry
  | .error _ => ready

/-- Lets the file that a path leads to be run. -/
def allowRun (d : Disk) (p : Path) : Disk :=
  match d.numberOf? p true with
  | .ok n => d.setMode n 0o755
  | .error _ => d

/-- Puts a file where a path leads; one that can be run already stays so. -/
def addFile (d : Disk) (p : Path) (content : Bytes) (executable : Bool) : Disk :=
  let after := d.put p (.file content) true
  if executable then after.allowRun p else after

def addDir (d : Disk) (p : Path) : Disk := (d.makeAllDirs p).2

def addLink (d : Disk) (p target : Path) : Disk := d.put p (.link target) false

def addProgram (d : Disk) (p : Path) (name : String) : Disk := d.put p (.program name) true

def addDevice (d : Disk) (p : Path) (name : String) : Disk := d.put p (.device name) true

/-- The disk as seen from another current directory. -/
def enter (d : Disk) (p : Path) : Except SystemError Disk :=
  match d.directory p with
  | .ok n => .ok { d with cwd := n }
  | .error e => .error e

/-- Gives a refusal of the disk its action and path. -/
def refuse {α : Type} (action : FileAction) (p : Path) : Except SystemError α → Except FileError α
  | .ok a => .ok a
  | .error e => .error (.failed action p (some e))

instance : FileSystem Disk where
  isFile := isFile
  isDir := isDir
  read d p := refuse .readFile p (d.content p)
  listFiles d p := refuse .readDirectory p (d.filesBelow p)
  createDirAll d p :=
    let (outcome, after) := d.makeAllDirs p
    (refuse .createDirectory p outcome, after)
  currentDir d := .ok (d.pathOf d.cwd)

end Disk

end ProtoTree
