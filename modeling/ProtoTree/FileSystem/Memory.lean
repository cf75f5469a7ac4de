import ProtoTree.FileSystem.Basic
import Std.Data.HashMap

/-! # File systems in memory

Entries found by the components of their paths. A path above an entry is a
directory without an entry of its own. An entry keeps the spelling under which
its path was first known.
-/

namespace ProtoTree

open Text (Bytes)

/-- What is recorded at a path. -/
inductive MemoryEntry where
  | file (content : Bytes)
  /-- A file that is listed but cannot be read. -/
  | unreadableFile
  | directory
  /-- A directory that exists but cannot be listed. -/
  | unreadableDirectory
  deriving DecidableEq, Repr, Inhabited

namespace MemoryEntry

def isFile : MemoryEntry → Bool
  | file _ | unreadableFile => true
  | _ => false

def isDirectory (e : MemoryEntry) : Bool := !e.isFile

end MemoryEntry

/-- An entry and the spelling of its path. -/
structure MemoryItem where
  path : Path
  entry : MemoryEntry
  deriving DecidableEq, Repr, Inhabited

/-- Files and directories in memory. Relative paths start at `root`. -/
structure MemoryFiles where
  root : Path
  items : Std.HashMap (List Component) MemoryItem
  deriving Inhabited

namespace MemoryFiles

/-- The path under which `p` is recorded. -/
def locate (m : MemoryFiles) (p : Path) : Path :=
  if p.isAbsolute then p else m.root.join p

/-- Whether components are some on the way to others, short of all of them. -/
def isAbove (dir parts : List Component) : Bool :=
  !dir.isEmpty && dir.length < parts.length && dir.isPrefixOf parts

/-- Whether some item lies below the components. -/
def hasBelow (m : MemoryFiles) (dir : List Component) : Bool :=
  m.items.toList.any fun item => isAbove dir item.1

/-- What is found at components: the entry there, or a directory when there are items below. -/
def find (m : MemoryFiles) (parts : List Component) : Option MemoryEntry :=
  match m.items[parts]? with
  | some item => some item.entry
  | none => if m.hasBelow parts then some .directory else none

/-- The spelling that an entry at `p` gets: the one that its path is known under, or the plainest one when it is
    known only from what is below it. -/
def spelling (m : MemoryFiles) (p : Path) : Path :=
  match m.items[p.components]? with
  | some item => item.path
  | none => if m.hasBelow p.components then .ofComponents p.components else p

/-- Adds an entry, replacing what was at its path. -/
def insert (m : MemoryFiles) (p : Path) (entry : MemoryEntry) : MemoryFiles :=
  let located := m.locate p
  { m with items := m.items.insert located.components ⟨m.spelling located, entry⟩ }

/-- A file system that holds only its root directory. -/
def empty (root : Path) : MemoryFiles := insert ⟨root, ∅⟩ root .directory

/-- Where relative paths start unless said otherwise. -/
def defaultRoot : Path := Path.ofString "/mock"

def addFile (m : MemoryFiles) (p : Path) (content : Bytes) : MemoryFiles :=
  m.insert p (.file content)

def addUnreadableFile (m : MemoryFiles) (p : Path) : MemoryFiles := m.insert p .unreadableFile

def addDir (m : MemoryFiles) (p : Path) : MemoryFiles := m.insert p .directory

def addUnreadableDir (m : MemoryFiles) (p : Path) : MemoryFiles := m.insert p .unreadableDirectory

/-- What is found at a path. -/
def entry? (m : MemoryFiles) (p : Path) : Option MemoryEntry := m.find (m.locate p).components

/-- Only an item can be a file. -/
def isFile (m : MemoryFiles) (p : Path) : Bool :=
  (m.items[(m.locate p).components]?).any fun item => item.entry.isFile

def isDir (m : MemoryFiles) (p : Path) : Bool :=
  match m.entry? p with
  | some e => e.isDirectory
  | none => false

def read (m : MemoryFiles) (p : Path) : Except FileError Bytes :=
  match m.entry? p with
  | none => .error (.missing (m.locate p))
  | some (.file content) => .ok content
  | some _ => .error (.failed .readFile (m.locate p) none)

/-- The items at or below a directory, in path order. -/
def itemsUnder (m : MemoryFiles) (dir : Path) : List MemoryItem :=
  let items := m.items.toList.filter fun item => dir.components.isPrefixOf item.1
  (items.map (·.2)).mergeSort fun a b => a.path.le b.path

/-- The files below a directory; one directory below it that cannot be listed makes the whole listing fail. -/
def listFiles (m : MemoryFiles) (p : Path) : Except FileError (List Path) :=
  let dir := m.locate p
  if !m.isDir dir then .error (.failed .readDirectory dir none)
  else
    let below := m.itemsUnder dir
    match below.find? fun item => decide (item.entry = .unreadableDirectory) with
    | some item => .error (.failed .walkDirectory item.path none)
    | none => .ok ((below.filter fun item => item.entry.isFile).map (·.path))

/-- Makes a directory and the directories above it; a file at the path is in the way. -/
def createDirAll (m : MemoryFiles) (p : Path) : Except FileError Unit × MemoryFiles :=
  if m.isFile p then (.error (.failed .createDirectory p none), m) else (.ok (), m.addDir p)

instance : FileSystem MemoryFiles where
  isFile := isFile
  isDir := isDir
  read := read
  listFiles := listFiles
  createDirAll := createDirAll
  currentDir m := .ok m.root

end MemoryFiles

end ProtoTree
