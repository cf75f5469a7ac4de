import ProtoTree.Source.File
import Std.Data.HashMap

/-! # Import graph

A literal is looked up next to the importing file, then under the primary
root, under each extra root, and under the directories above the primary root.
The first place that holds a file wins. A file's in-degree counts the other
files that import it, not their statements.
-/

namespace ProtoTree

/-- Where import literals are looked up, besides next to the importing file. -/
structure SearchSpace where
  primary : Path
  extra : List Path := []
  /-- How many directories above the primary root are tried. -/
  maxAscent : Nat
  deriving DecidableEq, Repr, Inhabited

/-- Where an import literal leads. -/
inductive ImportTarget where
  /-- To one of the given files. -/
  | discovered (path : Path)
  /-- To a file that is not among them. -/
  | external (path : Path)
  | unresolved
  deriving DecidableEq, Repr, Inhabited

namespace ImportTarget

def path? : ImportTarget → Option Path
  | discovered p | external p => some p
  | unresolved => none

def isResolved (t : ImportTarget) : Bool := t.path?.isSome

def toDocument : ImportTarget → Document
  | discovered p => .record [("kind", .text "discovered"), ("path", .text p.text)]
  | external p => .record [("kind", .text "external"), ("path", .text p.text)]
  | unresolved => .record [("kind", .text "unresolved")]

end ImportTarget

/-- A file that a literal names, and the directory above the primary root that it was found under, if any. -/
structure FoundImport where
  path : Path
  ancestor : Option Path := none
  deriving DecidableEq, Repr, Inhabited

namespace SearchSpace

/-- The path that a literal names under a directory. -/
def candidate (dir : Path) (literal : String) : Path := (dir.join (.ofString literal)).normalize

/-- The directories tried before the ancestors: next to the file, the primary root, the extra roots. -/
def direct (s : SearchSpace) (file : Path) : List Path :=
  file.parent?.toList ++ s.primary :: s.extra

/-- The ancestors tried, nearest first. -/
def ancestors (s : SearchSpace) : List Path := s.primary.ancestors s.maxAscent

/-- Every path that a literal of a file may name, in the order they are tried. -/
def candidates (s : SearchSpace) (file : Path) (literal : String) : List Path :=
  (s.direct file ++ s.ancestors).map fun dir => candidate dir literal

/-- The file that a literal names, if any, given the ancestors to try. -/
def findAmong (s : SearchSpace) (ancestors : List Path) (isFile : Path → Bool) (file : Path)
    (literal : String) : Option FoundImport :=
  match (s.direct file).find? fun dir => isFile (candidate dir literal) with
  | some dir => some ⟨candidate dir literal, none⟩
  | none =>
    (ancestors.find? fun dir => isFile (candidate dir literal)).map fun dir =>
      ⟨candidate dir literal, some dir⟩

/-- The file that a literal names, if any. -/
def find? (s : SearchSpace) (isFile : Path → Bool) (file : Path) (literal : String) :
    Option FoundImport :=
  s.findAmong s.ancestors isFile file literal

end SearchSpace

/-- One literal of one file, and where it leads. -/
structure ImportEdge where
  source : Path
  literal : String
  target : ImportTarget
  /-- The directory above the primary root that satisfied the literal, if one did. -/
  ancestor : Option Path := none
  deriving DecidableEq, Repr, Inhabited

/-- An edge together with the positions of the files it joins. -/
structure ImportLink where
  source : Nat
  target : Option Nat
  edge : ImportEdge
  deriving DecidableEq, Repr, Inhabited

/-- The imports among some files. -/
structure ImportGraph where
  edges : List ImportEdge := []
  /-- How many other files import each file, in path order. -/
  inDegrees : List (Path × Nat) := []
  deriving DecidableEq, Repr, Inhabited

namespace ImportGraph

/-- Members of a list whose key has not come before. -/
def distinctBy {α κ : Type} [BEq κ] (key : α → κ) (items : List α) : List α :=
  let keep (kept : List (κ × α)) (item : κ × α) : List (κ × α) :=
    if kept.any fun other => other.1 == item.1 then kept else item :: kept
  ((items.map fun a => (key a, a)).foldl keep []).reverse.map (·.2)

/-- The positions of files by key; of several files with one key, the last. -/
def positions (files : List SourceFile) : Std.HashMap String Nat :=
  files.zipIdx.foldl (fun found (f, i) => found.insert f.path.key i) ∅

/-- The target of a literal that names a file, and its position if it is one of the files. -/
def targetOf (files : Array SourceFile) (positions : Std.HashMap String Nat) (found : Path) :
    Option Nat × ImportTarget :=
  match positions[found.key]? with
  | none => (none, .external found)
  | some i => (some i, .discovered ((files[i]?.map (·.path)).getD found))

/-- The link of one literal, given what it names. -/
def link (files : Array SourceFile) (positions : Std.HashMap String Nat) (source : Nat)
    (file : SourceFile) (literal : String) : Option FoundImport → ImportLink
  | none => ⟨source, none, ⟨file.path, literal, .unresolved, none⟩⟩
  | some found =>
    let (target, path) := targetOf files positions found.path
    ⟨source, target, ⟨file.path, literal, path, found.ancestor⟩⟩

/-- The links of all files: file by file, each literal once. -/
def links (s : SearchSpace) (isFile : Path → Bool) (files : List SourceFile) : List ImportLink :=
  let ancestors := s.ancestors
  let positions := positions files
  let known := files.toArray
  files.zipIdx.flatMap fun (file, i) =>
    (distinctBy id file.imports).map fun literal =>
      link known positions i file literal (s.findAmong ancestors isFile file.path literal)

/-- How many files other than the one at `position` import it. -/
def importerCount (links : List ImportLink) (position : Nat) : Nat :=
  let importing := links.filter fun l => l.target == some position && l.source != position
  (distinctBy id (importing.map (·.source))).length

/-- The in-degree of every path among the files, in path order. -/
def countImporters (links : List ImportLink) (files : List SourceFile) : List (Path × Nat) :=
  let counts := files.zipIdx.map fun (f, i) => (f.path.components, importerCount links i)
  let count (p : Path) : Nat :=
    let parts := p.components
    (counts.filter fun c => c.1 == parts).foldr (fun c sum => c.2 + sum) 0
  (Path.sort (distinctBy Path.components (files.map (·.path)))).map fun p => (p, count p)

/-- The graph of some files. -/
def build (s : SearchSpace) (isFile : Path → Bool) (files : List SourceFile) : ImportGraph :=
  let links := links s isFile files
  { edges := links.map (·.edge), inDegrees := countImporters links files }

/-- The in-degrees by path components. -/
def degrees (g : ImportGraph) : List (List Component × Nat) :=
  g.inDegrees.map fun (p, n) => (p.components, n)

/-- How many other files import the file at a path. -/
def inDegree (g : ImportGraph) (p : Path) : Nat := (g.degrees.lookup p.components).getD 0

/-- The edges that lead nowhere. -/
def unresolved (g : ImportGraph) : List ImportEdge :=
  g.edges.filter fun e => !e.target.isResolved

/-- The directories above the primary root that satisfied an import, in the order they were first needed. -/
def ancestorRoots (g : ImportGraph) : List Path :=
  distinctBy Path.key (g.edges.filterMap (·.ancestor))

/-- The records that looking up one literal leaves in the log. `known` tells whether the ancestor that it needed
    was needed before. -/
def edgeRecords (known : Bool) (e : ImportEdge) : List LogRecord :=
  let target := "protosweep::resolve::graph"
  match e.target, e.ancestor with
  | .unresolved, _ =>
    [{ level := .debug, target
       message := "Import could not be resolved against any search root"
       fields := [("file", .shown e.source.text), ("import", .shown e.literal)] }]
  | _, some dir =>
    if known then []
    else
      [{ level := .debug, target, message := "Import resolved via ancestor directory"
         fields := [("root", .shown dir.text)] }]
  | _, none => []

/-- The records that building the graph leaves in the log, given the keys of the ancestors needed before. -/
def recordsFrom (seen : List String) : List ImportEdge → List LogRecord
  | [] => []
  | e :: rest =>
    match e.ancestor.map Path.key with
    | none => edgeRecords false e ++ recordsFrom seen rest
    | some key =>
      edgeRecords (seen.contains key) e ++
        recordsFrom (if seen.contains key then seen else key :: seen) rest

def records (g : ImportGraph) : List LogRecord := recordsFrom [] g.edges

end ImportGraph

end ProtoTree
