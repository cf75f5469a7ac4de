import Mathlib.Data.List.Perm.Basic
import ProtoTree.Proofs.Importers
import ProtoTree.Proofs.Path.Order
import ProtoTree.Proofs.RootSearch

/-! # Order of the files

Files may be given in any order, and each may declare its imports in any order
and repeat them. The graph then has the same edges and in-degrees and needs the
same ancestors, and the same files are listed and left out.
-/

namespace ProtoTree

/-- A file at the same path that declares a service alike, and the same imports in any order and number. -/
structure SourceFile.Redeclares (file other : SourceFile) : Prop where
  path : other.path = file.path
  service : other.hasService = file.hasService
  imports : ∀ literal, literal ∈ other.imports ↔ literal ∈ file.imports

/-- The same files in another order, each with its imports in any order. -/
def Reordered (files others : List SourceFile) : Prop :=
  ∃ between, files.Perm between ∧ List.Forall₂ SourceFile.Redeclares between others

namespace Reordered

open ImportGraph SearchSpace

section Laws

variable {files others : List SourceFile} (h : Reordered files others)
include h

/-- What each file gives up to order, all files give up to order. -/
theorem flatMap_perm {α : Type} {gather gather' : SourceFile → List α}
    (same : ∀ file other : SourceFile, file.Redeclares other → (gather file).Perm (gather' other)) :
    (files.flatMap gather).Perm (others.flatMap gather') := by
  obtain ⟨between, moved, redeclared⟩ := h
  refine (moved.flatMap_right gather).trans ?_
  clear moved
  induction redeclared with
  | nil => exact .refl _
  | cons first _ ih => exact (same _ _ first).append ih

/-- A test that is blind to the order of imports passes the same files. -/
theorem filter_paths_perm {keep keep' : SourceFile → Bool}
    (same : ∀ file other : SourceFile, file.Redeclares other → keep file = keep' other) :
    ((files.filter keep).map (·.path)).Perm ((others.filter keep').map (·.path)) := by
  obtain ⟨between, moved, redeclared⟩ := h
  refine ((moved.filter keep).map _).trans (.of_eq ?_)
  clear moved
  induction redeclared with
  | nil => rfl
  | @cons file other _ _ first _ ih =>
      rw [List.filter_cons, List.filter_cons, same file other first]
      split
      · rw [List.map_cons, List.map_cons, ih, first.path]
      · exact ih

theorem paths_perm : (files.map (·.path)).Perm (others.map (·.path)) := by
  have all := @filter_paths_perm _ _ h (fun _ => true) (fun _ => true) fun _ _ _ => rfl
  rwa [List.filter_true, List.filter_true] at all

theorem declared_perm : (declared files).Perm (declared others) := by
  refine h.flatMap_perm fun file other redeclares => ?_
  rw [redeclares.path]
  refine List.Perm.map _ ((List.perm_ext_iff_of_nodup (nodup_eraseDups _) (nodup_eraseDups _)).mpr ?_)
  intro literal
  rw [List.mem_eraseDups, List.mem_eraseDups, redeclares.imports]

/-! ## The graph -/

section Graph

variable {s : SearchSpace} {isFile : Path → Bool} (distinct : (files.map (·.path.key)).Nodup)
include distinct

theorem distinct_others : (others.map (·.path.key)).Nodup := by
  have keys := h.paths_perm.map Path.key
  rw [List.map_map, List.map_map] at keys
  exact keys.nodup distinct

theorem targetIn_eq (found : Path) : (targetIn others found).2 = (targetIn files found).2 := by
  rcases targetIn_cases files found with ⟨apart, eq⟩ | ⟨i, file, at_i, same, eq⟩
  · rw [eq]
    refine external_targetIn.mpr ⟨rfl, fun p given => ?_⟩
    obtain ⟨file, member, rfl⟩ := List.mem_map.mp (h.paths_perm.symm.subset given)
    exact apart file member
  · rw [eq]
    have given : file.path ∈ files.map (·.path) := List.mem_map_of_mem (List.mem_of_getElem? at_i)
    exact (discovered_targetIn (h.distinct_others distinct)).mpr ⟨h.paths_perm.subset given, same⟩

theorem edgeIn_eq (pair : Path × String) : edgeIn s isFile others pair = edgeIn s isFile files pair := by
  rw [edgeIn, edgeIn]
  cases s.find? isFile pair.1 pair.2 with
  | none => rfl
  | some found => simp only [h.targetIn_eq distinct]

theorem edges_perm : (build s isFile files).edges.Perm (build s isFile others).edges := by
  have edge : edgeIn s isFile others = edgeIn s isFile files := funext (h.edgeIn_eq distinct)
  rw [edges_build, edges_build, edge]
  exact h.declared_perm.map _

theorem length_importers (p : Path) :
    ((build s isFile others).importers others p).length = ((build s isFile files).importers files p).length := by
  have imports (q : Path) : (build s isFile files).Imports q p ↔ (build s isFile others).Imports q p :=
    exists_congr fun e => and_congr_left fun _ => (h.edges_perm distinct).mem_iff
  have listed := @filter_paths_perm _ _ h
    (fun file => file.path ≠ p ∧ (build s isFile files).Imports file.path p)
    (fun file => file.path ≠ p ∧ (build s isFile others).Imports file.path p)
    fun file other redeclares => by simp only [redeclares.path, imports]
  rw [importers, importers, ← List.length_map (·.path), ← listed.length_eq, List.length_map]

theorem ancestorRoots_perm (primary : s.primary.Normal) (absolute : s.primary.isAbsolute) :
    (build s isFile files).ancestorRoots.Perm (build s isFile others).ancestorRoots := by
  refine (List.perm_ext_iff_of_nodup (nodup_ancestorRoots _) (nodup_ancestorRoots _)).mpr fun dir => ?_
  rw [mem_ancestorRoots primary absolute, mem_ancestorRoots primary absolute]
  simp only [(h.edges_perm distinct).mem_iff]

theorem inDegrees_eq (normal : ∀ file ∈ files, file.path.Normal) :
    (build s isFile others).inDegrees = (build s isFile files).inDegrees := by
  have settled : ∀ p ∈ files.map (·.path), p.Normal := List.forall_mem_map.mpr normal
  have settledOthers : ∀ p ∈ others.map (·.path), p.Normal := fun p given =>
    settled p (h.paths_perm.symm.subset given)
  rw [inDegrees_build (nodup_paths (h.distinct_others distinct)) settledOthers,
    inDegrees_build (nodup_paths distinct) settled, Path.sort_eq_of_perm settled h.paths_perm.symm]
  exact List.map_congr_left fun p _ => by rw [h.length_importers distinct]

end Graph

/-- The decision looks at in-degrees and services, and at the order of the files only to list them. -/
theorem ofGraph_perm {g g' : ImportGraph} (degrees : g'.inDegrees = g.inDegrees) :
    (Inclusion.ofGraph others g').fallbackApplied = (Inclusion.ofGraph files g).fallbackApplied ∧
      (Inclusion.ofGraph files g).compile.Perm (Inclusion.ofGraph others g').compile ∧
      (Inclusion.ofGraph files g).omitted.Perm (Inclusion.ofGraph others g').omitted := by
  have degree (p : Path) : g'.inDegree p = g.inDegree p := by
    rw [inDegree, inDegree, ImportGraph.degrees, ImportGraph.degrees, degrees]
  have keeps (file other : SourceFile) (redeclares : file.Redeclares other) :
      Inclusion.keeps file (g.inDegree file.path) = Inclusion.keeps other (g'.inDegree other.path) := by
    rw [Bool.eq_iff_iff, Inclusion.keeps_iff, Inclusion.keeps_iff, degree, redeclares.path, redeclares.service]
  have listed := h.filter_paths_perm keeps
  have left := h.filter_paths_perm fun file other redeclares => congrArg not (keeps file other redeclares)
  have empty : files.isEmpty = others.isEmpty := by
    rw [← List.isEmpty_map (f := (·.path)), h.paths_perm.isEmpty_eq, List.isEmpty_map]
  rw [Inclusion.ofGraph_eq, Inclusion.ofGraph_eq, listed.isEmpty_eq, empty]
  split
  · exact ⟨rfl, h.paths_perm, .refl _⟩
  · exact ⟨rfl, listed, left⟩

/-- Neither the order of the files nor the order and number of their imports changes the in-degrees, the edges, the
    imports that lead nowhere, the ancestor roots or which files are listed. -/
theorem build_reordered {s : SearchSpace} {isFile : Path → Bool} (primary : s.primary.Normal)
    (absolute : s.primary.isAbsolute) (distinct : (files.map (·.path.key)).Nodup)
    (normal : ∀ file ∈ files, file.path.Normal) :
    (build s isFile others).inDegrees = (build s isFile files).inDegrees ∧
      (build s isFile files).edges.Perm (build s isFile others).edges ∧
      ((build s isFile files).unresolved.map fun e => (e.source, e.literal)).Perm
        ((build s isFile others).unresolved.map fun e => (e.source, e.literal)) ∧
      (build s isFile files).ancestorRoots.Perm (build s isFile others).ancestorRoots ∧
      (Inclusion.ofGraph others (build s isFile others)).fallbackApplied =
        (Inclusion.ofGraph files (build s isFile files)).fallbackApplied ∧
      (Inclusion.ofGraph files (build s isFile files)).compile.Perm
        (Inclusion.ofGraph others (build s isFile others)).compile ∧
      (Inclusion.ofGraph files (build s isFile files)).omitted.Perm
        (Inclusion.ofGraph others (build s isFile others)).omitted := by
  have degrees : (build s isFile others).inDegrees = (build s isFile files).inDegrees :=
    h.inDegrees_eq distinct normal
  have edges : (build s isFile files).edges.Perm (build s isFile others).edges := h.edges_perm distinct
  exact ⟨degrees, edges, (edges.filter _).map _, h.ancestorRoots_perm distinct primary absolute,
    h.ofGraph_perm degrees⟩

end Laws

/-! ## The tangled files shuffled -/

open Inclusion (tangled isTangled tangledGraph)

def shuffled : List SourceFile :=
  [⟨.ofString "/w/c.proto", { imports := ["s/b.proto", "a.proto", "s/b.proto"] }, none⟩,
    ⟨.ofString "/w/a.proto",
      { imports := ["none.proto", "s/b.proto", "x.proto", "/w/s/b.proto", "none.proto", "./s/b.proto"] }, none⟩,
    ⟨.ofString "/w/s/b.proto", ⟨["s/b.proto", "b.proto"], true, false⟩, none⟩]

theorem reordered_shuffled : Reordered tangled shuffled := by
  refine ⟨[tangled[2], tangled[0], tangled[1]], by decide, ?_⟩
  refine .cons ⟨rfl, rfl, fun literal => ?_⟩ (.cons ⟨rfl, rfl, fun literal => ?_⟩
    (.cons ⟨rfl, rfl, fun literal => ?_⟩ .nil))
  · simp [tangled, SourceFile.imports]
    tauto
  · simp [tangled, SourceFile.imports]
    tauto
  · simp [tangled, SourceFile.imports, or_comm]

def shuffledGraph : ImportGraph := build ⟨.ofString "/w", [.ofString "/x"], 8⟩ isTangled shuffled

/-- Three files turned round, with their imports moved and two of them repeated, are listed as before. -/
theorem build_reordered_shuffled :
    shuffledGraph.inDegrees = tangledGraph.inDegrees ∧ tangledGraph.edges.Perm shuffledGraph.edges ∧
      (Inclusion.ofGraph tangled tangledGraph).compile.Perm (Inclusion.ofGraph shuffled shuffledGraph).compile := by
  obtain ⟨degrees, edges, -, -, -, listed, -⟩ := @build_reordered tangled shuffled reordered_shuffled
    ⟨.ofString "/w", [.ofString "/x"], 8⟩ isTangled (by decide) rfl (by decide +kernel) (by decide)
  exact ⟨degrees, edges, listed⟩

end Reordered

end ProtoTree
