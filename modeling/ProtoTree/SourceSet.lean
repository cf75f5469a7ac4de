import ProtoTree.Inclusion
import ProtoTree.SearchRoots

/-! # Source sets

From discovered files to what the compiler is told: the files to list and the
roots to search.
-/

namespace ProtoTree

/-- How a source set is resolved. -/
structure SourceSetRequest where
  /-- Where relative roots start. -/
  base : Path
  primary : Path
  extra : List Path := []
  maxAscent : Nat := 8
  detectImports : Bool := true
  deriving DecidableEq, Repr, Inhabited

/-- How many directories above the primary root an import may be found in, unless said otherwise. -/
def defaultMaxAscent : Nat := 8

/-- A resolved source set. -/
structure SourceSet where
  files : List SourceFile
  /-- Empty when imports are not detected. -/
  graph : ImportGraph
  inclusion : Inclusion
  /-- Each root once, the primary root first. -/
  roots : List Path
  /-- What the resolution left in the log. -/
  records : List LogRecord := []
  deriving Repr, Inhabited

namespace SourceSetRequest

/-- The primary root in normal form. -/
def primaryRoot (r : SourceSetRequest) : Path := r.primary.absolutize r.base

/-- The extra roots in normal form. -/
def extraRoots (r : SourceSetRequest) : List Path := r.extra.map (·.absolutize r.base)

/-- Where the imports of the files are looked up. -/
def space (r : SourceSetRequest) : SearchSpace := ⟨r.primaryRoot, r.extraRoots, r.maxAscent⟩

/-- Lists every file without looking at any. -/
def resolveAll (r : SourceSetRequest) (discovered : List Path) : SourceSet :=
  let files := discovered.map fun path => ({ path } : SourceFile)
  { files, graph := {}, inclusion := .everything files
    roots := SearchRoots.dedupe r.base r.primaryRoot r.extraRoots []
    records := [{ level := .debug, target := "protosweep::resolve"
                  message := "Import detection disabled; listing every discovered file" }] }

/-- The record that sums up a resolution. -/
def summaryRecord (files : List SourceFile) (g : ImportGraph) (d : Inclusion) (roots : List Path) :
    LogRecord :=
  { level := .info, target := "protosweep::resolve", message := "Resolved proto source set"
    fields := [("discovered", .number files.length), ("compile", .number d.compile.length),
      ("omitted", .number d.omitted.length), ("unresolved", .number g.unresolved.length),
      ("roots", .number roots.length)] }

/-- Lists the files that nothing else pulls in. -/
def resolveImports {σ : Type} [FileSystem σ] (r : SourceSetRequest) (fs : σ)
    (discovered : List Path) : SourceSet :=
  let files := discovered.map (SourceFile.scan fs)
  let graph := ImportGraph.build r.space (FileSystem.isFile fs) files
  let inclusion := Inclusion.ofGraph files graph
  let roots := SearchRoots.dedupe r.base r.primaryRoot r.extraRoots graph.ancestorRoots
  { files, graph, inclusion, roots
    records := files.map SourceFile.scanRecord ++ graph.records ++ inclusion.records
      ++ [summaryRecord files graph inclusion roots] }

/-- Resolves the discovered files. -/
def resolve {σ : Type} [FileSystem σ] (r : SourceSetRequest) (fs : σ) (discovered : List Path) :
    SourceSet :=
  if r.detectImports then r.resolveImports fs discovered else r.resolveAll discovered

end SourceSetRequest

end ProtoTree
