import ProtoTree.Proofs.ImportGraph.Building
import ProtoTree.Proofs.Inclusion

/-! # Listing by importers

The in-degree of a file is the number of the other files with an edge to it, and
counting while walking over the literals gives the same number. Unless all files
are listed for want of kept ones, those without importers are listed, and those
with services.
-/

namespace ProtoTree

namespace Inclusion

open ImportGraph

variable {s : SearchSpace} {isFile : Path → Bool} {files : List SourceFile}

/-- Of files with different keys, one imports another just when it leads to it. -/
theorem imports_iff_leadsTo (distinct : (files.map (·.path.key)).Nodup) {file other : SourceFile}
    (member : file ∈ files) (among : other ∈ files) :
    (build s isFile files).Imports other.path file.path ↔ s.leadsTo isFile other file.path := by
  rw [imports_iff distinct (List.mem_map_of_mem member)]
  constructor
  · rintro ⟨same, listed, path, leads⟩
    rwa [List.inj_on_of_nodup_map (nodup_paths distinct) listed among path] at leads
  · intro leads
    exact ⟨other, among, rfl, leads⟩

/-- An in-degree counts the other files with an edge to a file: those of which a literal leads to the key of the
    file, and so to the file itself where all paths are text. Every given file has an in-degree, the loop over the
    literals finds the same ones, and unless all files are listed for want of kept ones, a file is listed when it has
    no importer or declares a service. -/
theorem inDegree_counts_importers (distinct : (files.map (·.path.key)).Nodup)
    (normal : ∀ file ∈ files, file.path.Normal) :
    (∀ file ∈ files,
        (build s isFile files).inDegree file.path = ((build s isFile files).importers files file.path).length) ∧
      (∀ file ∈ files, ∀ other ∈ files,
        (build s isFile files).Imports other.path file.path ↔ s.leadsTo isFile other file.path) ∧
      (s.IsText → (∀ file ∈ files, file.path.IsText) → ∀ file ∈ files, ∀ other ∈ files,
        (build s isFile files).Imports other.path file.path ↔ s.finds isFile other file.path) ∧
      ((build s isFile files).inDegrees.map (·.1)).Perm (files.map (·.path)) ∧
      (GraphBuilding.run s isFile files).inDegrees = (build s isFile files).inDegrees ∧
      ((ofGraph files (build s isFile files)).fallbackApplied = false →
        ∀ file ∈ files, file.path ∈ (ofGraph files (build s isFile files)).compile ↔
          (build s isFile files).importers files file.path = [] ∨ file.hasService) := by
  have paths := nodup_paths distinct
  have settled : ∀ p ∈ files.map (·.path), p.Normal := List.forall_mem_map.mpr normal
  have count {file : SourceFile} (member : file ∈ files) :=
    @inDegree_eq_importers s isFile files paths settled file member
  refine ⟨fun file member => count member, fun file member other among => imports_iff_leadsTo distinct member among,
    fun text given file member other among => ?_, ?_, (GraphBuilding.run_eq_build s isFile files).2.2.2,
    fun kept file member => ?_⟩
  · rw [imports_iff_leadsTo distinct member among,
      SearchSpace.leadsTo_eq_finds text (given other among) (given file member) (normal file member)]
  · have keys : (build s isFile files).inDegrees.map (·.1) = Path.sort (files.map (·.path)) := by
      rw [inDegrees_build paths settled, List.map_map]
      exact List.map_id _
    rw [keys]
    exact List.mergeSort_perm _ _
  · rcases ofGraph_cases files (build s isFile files) with ⟨-, eq⟩ | ⟨-, eq⟩
    · rw [eq] at kept
      cases kept
    · rw [eq, ← List.length_eq_zero_iff, ← count member, ← keeps_iff, List.mem_map]
      constructor
      · rintro ⟨other, kept, same⟩
        obtain ⟨given, keeps⟩ := List.mem_filter.mp kept
        rwa [List.inj_on_of_nodup_map paths given member same] at keeps
      · intro keeps
        exact ⟨file, List.mem_filter.mpr ⟨member, keeps⟩, rfl⟩

/-- A file whose path looks like the first match is counted as imported, though no literal leads to it. -/
theorem inDegree_lookalike :
    (build ⟨.ofString "/w", [], 8⟩ isLookalike lookalikes).inDegree (.ofString "/w/\uFFFD/s/b.proto") = 1 ∧
      ∀ file ∈ lookalikes,
        SearchSpace.finds ⟨.ofString "/w", [], 8⟩ isLookalike file (.ofString "/w/\uFFFD/s/b.proto") = false := by
  have counted := @inDegree_eq_importers ⟨.ofString "/w", [], 8⟩ isLookalike lookalikes (by decide)
    (by decide) lookalikes[1] (List.getElem_mem _)
  have once : ((build ⟨.ofString "/w", [], 8⟩ isLookalike lookalikes).importers lookalikes
      (.ofString "/w/\uFFFD/s/b.proto")).length = 1 := by
    rw [importers_of_edges edges_lookalikes]
    decide
  exact ⟨counted.trans once, by decide⟩

/-! ## A file imported in many ways -/

/-- A file with a service that imports itself. Another one imports it in three spellings, one of them twice, besides
    a file outside and one that does not exist, and a third one imports both. -/
def tangled : List SourceFile :=
  [⟨.ofString "/w/a.proto",
      { imports := ["s/b.proto", "./s/b.proto", "/w/s/b.proto", "s/b.proto", "x.proto", "none.proto"] }, none⟩,
    ⟨.ofString "/w/s/b.proto", ⟨["b.proto", "s/b.proto"], true, false⟩, none⟩,
    ⟨.ofString "/w/c.proto", { imports := ["a.proto", "s/b.proto"] }, none⟩]

def tangledSpace : SearchSpace := ⟨.ofString "/w", [.ofString "/x"], 8⟩

def isTangled (p : Path) : Bool := p ∈ .ofString "/x/x.proto" :: tangled.map (·.path)

def tangledGraph : ImportGraph := build tangledSpace isTangled tangled

theorem tangled_text : ∀ file ∈ tangled, file.path.IsText := by
  simp [tangled, Path.isText_ofString]

theorem tangled_keys : (tangled.map (·.path.key)).Nodup := by
  have text : ∀ p ∈ tangled.map (·.path), p.IsText := List.forall_mem_map.mpr tangled_text
  have keys := Path.IsText.nodup_map_key (by decide) (by decide) text
  rwa [List.map_map] at keys

theorem importers_tangled :
    tangledGraph.importers tangled (.ofString "/w/s/b.proto") = [tangled[0], tangled[2]] ∧
      tangledGraph.importers tangled (.ofString "/w/a.proto") = [tangled[2]] ∧
      tangledGraph.importers tangled (.ofString "/w/c.proto") = [] := by
  rw [tangledGraph, build_eq]
  decide +kernel

/-- Two files import the one with the service, which is listed all the same. -/
theorem inDegree_counts_tangled :
    tangledGraph.inDegree (.ofString "/w/s/b.proto") = 2 ∧
      tangledGraph.Imports (.ofString "/w/a.proto") (.ofString "/w/s/b.proto") ∧
      (tangledGraph.inDegrees.map (·.1)).Perm (tangled.map (·.path)) ∧
      .ofString "/w/s/b.proto" ∈ (ofGraph tangled tangledGraph).compile ∧
      .ofString "/w/a.proto" ∉ (ofGraph tangled tangledGraph).compile := by
  obtain ⟨count, -, found, keys, -, listed⟩ :=
    @inDegree_counts_importers tangledSpace isTangled tangled tangled_keys (by decide)
  rw [← tangledGraph] at count keys listed found
  obtain ⟨twice, once, never⟩ := importers_tangled
  have service := count tangled[1] (List.getElem_mem _)
  have unused := count tangled[2] (List.getElem_mem _)
  have chosen : (ofGraph tangled tangledGraph).fallbackApplied = false :=
    fallbackApplied_of_keeps (List.getElem_mem _) (keeps_iff.mpr (.inl (unused.trans (congrArg List.length never))))
  refine ⟨service.trans (congrArg List.length twice), ?_, keys, ?_, ?_⟩
  · have text : tangledSpace.IsText := ⟨by decide, by decide⟩
    have leads : tangledSpace.finds isTangled tangled[0] tangled[1].path := by decide
    exact (found text tangled_text tangled[1] (List.getElem_mem _) tangled[0] (List.getElem_mem _)).mpr leads
  · exact (listed chosen tangled[1] (List.getElem_mem _)).mpr (.inr rfl)
  · intro kept
    rcases (listed chosen tangled[0] (List.getElem_mem _)).mp kept with none | served
    · exact absurd (once.symm.trans none) (by decide)
    · cases served

end Inclusion

end ProtoTree
