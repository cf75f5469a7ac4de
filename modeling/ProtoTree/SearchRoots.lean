import ProtoTree.Path.Normal

/-! # Search roots

An ordered set of include directories. Two spellings of one directory are one
member: the first one added keeps its place, in normal form. Membership is
looked up by key, among the keys of the members.
-/

namespace ProtoTree

/-- Include directories in the order they are searched. -/
structure SearchRoots where
  /-- Where relative directories start. -/
  base : Path
  /-- The members in normal form. -/
  roots : List Path
  /-- The keys of the members. -/
  keys : List String
  deriving DecidableEq, Repr, Inhabited

/-- A call on search roots that is answered with yes or no. -/
inductive RootCall where
  | insert (dir : Path)
  | contains (dir : Path)
  deriving DecidableEq, Repr, Inhabited

namespace SearchRoots

def empty (base : Path) : SearchRoots := ⟨base, [], []⟩

/-- The normal form of a directory as a member. -/
def canonical (s : SearchRoots) (dir : Path) : Path := dir.absolutize s.base

/-- Whether the directory is a member under any spelling. -/
def contains (s : SearchRoots) (dir : Path) : Bool := s.keys.contains (s.canonical dir).key

/-- Adds a directory at the end unless it is a member, and tells whether it was new. -/
def add (s : SearchRoots) (dir : Path) : SearchRoots × Bool :=
  let dir := s.canonical dir
  if s.keys.contains dir.key then (s, false)
  else ({ s with roots := s.roots ++ [dir], keys := dir.key :: s.keys }, true)

/-- Adds a directory at the end unless it is a member. -/
def insert (s : SearchRoots) (dir : Path) : SearchRoots := (s.add dir).1

/-- Adds directories in order. -/
def insertAll (s : SearchRoots) (dirs : List Path) : SearchRoots := dirs.foldl insert s

def size (s : SearchRoots) : Nat := s.roots.length

/-- Carries out one call: the roots after it and its answer. -/
def call (s : SearchRoots) : RootCall → SearchRoots × Bool
  | .insert dir => s.add dir
  | .contains dir => (s, s.contains dir)

/-- Carries out calls in order and gathers their answers. -/
def run (s : SearchRoots) : List RootCall → List Bool
  | [] => []
  | call :: rest =>
    let (next, answer) := s.call call
    answer :: run next rest

/-- The roots after calls in order. -/
def after (s : SearchRoots) (calls : List RootCall) : SearchRoots :=
  calls.foldl (fun s call => (s.call call).1) s

/-- The primary root, then the extra roots, then the ancestors, each directory once. -/
def dedupe (base primary : Path) (extra ancestors : List Path) : List Path :=
  ((empty base).insertAll (primary :: extra ++ ancestors)).roots

end SearchRoots

end ProtoTree
