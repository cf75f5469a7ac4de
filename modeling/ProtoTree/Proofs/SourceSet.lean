import ProtoTree.Proofs.FileSystem.Memory
import ProtoTree.Proofs.ImportGraph.Edges
import ProtoTree.SourceSet

/-! # Parts of a source set

With import detection on, every discovered file is scanned, the graph is built
over the scanned files, and the decision and the roots are read off the graph.
Over files in memory all of it can be computed.
-/

namespace ProtoTree.SourceSetRequest

variable {σ : Type} [FileSystem σ] (r : SourceSetRequest) (fs : σ) (discovered : List Path)

@[simp] theorem path_scan (path : Path) : (SourceFile.scan fs path).path = path := by
  rw [SourceFile.scan]
  split <;> rfl

theorem paths_scan : (discovered.map (SourceFile.scan fs)).map (·.path) = discovered := by
  simp [Function.comp_def]

section Parts

variable (detects : r.detectImports)
include detects

theorem files_resolve : (r.resolve fs discovered).files = discovered.map (SourceFile.scan fs) := by
  simp [resolve, detects, resolveImports]

theorem graph_resolve :
    (r.resolve fs discovered).graph =
      ImportGraph.build r.space (FileSystem.isFile fs) (discovered.map (SourceFile.scan fs)) := by
  simp [resolve, detects, resolveImports]

theorem inclusion_resolve :
    (r.resolve fs discovered).inclusion =
      .ofGraph (discovered.map (SourceFile.scan fs)) (r.resolve fs discovered).graph := by
  simp [resolve, detects, resolveImports]

theorem roots_resolve :
    (r.resolve fs discovered).roots = SearchRoots.dedupe r.base r.primaryRoot r.extraRoots
      (r.resolve fs discovered).graph.ancestorRoots := by
  simp [resolve, detects, resolveImports]

end Parts

section InMemory

open MemoryFiles Text

variable {root : Path} {files : List (Path × Bytes)} {r : SourceSetRequest} {discovered : List Path}

/-- What is scanned at a path of a system of given files. -/
def scanned (root : Path) (files : List (Path × Bytes)) (path : Path) : SourceFile :=
  { path, declarations := .ofText (decodeLossy ((lastAdded? root files path).getD [])) }

theorem scan_ofFiles {path : Path} (added : (lastAdded? root files path).isSome) :
    SourceFile.scan (ofFiles root files) path = scanned root files path := by
  obtain ⟨content, last⟩ := Option.isSome_iff_exists.mp added
  have read : FileSystem.read (ofFiles root files) path = .ok content := read_ofFiles last
  simp only [SourceFile.scan, read, scanned, last, Option.getD_some]

theorem files_ofFiles (added : ∀ path ∈ discovered, (lastAdded? root files path).isSome) :
    discovered.map (SourceFile.scan (ofFiles root files)) = discovered.map (scanned root files) :=
  List.map_congr_left fun path member => scan_ofFiles (added path member)

/-- The source set of scanned files, with a graph that needs no table of positions. -/
def resolveIn (r : SourceSetRequest) (isFile : Path → Bool) (files : List SourceFile) : SourceSet :=
  let graph := ImportGraph.buildIn r.space isFile files
  let inclusion := Inclusion.ofGraph files graph
  let roots := SearchRoots.dedupe r.base r.primaryRoot r.extraRoots graph.ancestorRoots
  { files, graph, inclusion, roots
    records := files.map SourceFile.scanRecord ++ graph.records ++ inclusion.records
      ++ [summaryRecord files graph inclusion roots] }

theorem resolve_ofFiles (detects : r.detectImports)
    (added : ∀ path ∈ discovered, (lastAdded? root files path).isSome) :
    r.resolve (ofFiles root files) discovered =
      r.resolveIn (fun path => (lastAdded? root files path).isSome)
        (discovered.map (scanned root files)) := by
  simp only [resolve, detects, if_true, resolveImports, resolveIn, files_ofFiles added, isFile_eq,
    ImportGraph.build_eq]

end InMemory

end ProtoTree.SourceSetRequest
