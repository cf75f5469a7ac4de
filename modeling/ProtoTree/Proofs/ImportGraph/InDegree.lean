import Mathlib.Data.List.Nodup
import ProtoTree.Proofs.ImportGraph.FirstMatch

/-! # In-degrees

A file is imported by another one when some literal of that file leads to it,
in whatever spelling and however often. In-degrees are looked up in a table that
is filled by counting, for every given file, the positions of its importers, so
each is their number. It is positive exactly when an edge from another file
leads there.
-/

namespace ProtoTree

namespace SearchSpace

/-- Whether some literal of a file leads to a path: the first candidate of the literal at which there is a file has the
    key of the path. -/
def leadsTo (s : SearchSpace) (isFile : Path → Bool) (file : SourceFile) (p : Path) : Bool :=
  file.imports.any fun literal => ((s.candidates file.path literal).find? isFile).map Path.key == some p.key

/-- Whether the first candidate of some literal of a file at which there is a file is a path itself. -/
def finds (s : SearchSpace) (isFile : Path → Bool) (file : SourceFile) (p : Path) : Bool :=
  file.imports.any fun literal => (s.candidates file.path literal).find? isFile == some p

/-- Among paths that are text, the file that has the key of the first candidate is the candidate itself. -/
theorem leadsTo_eq_finds {s : SearchSpace} {isFile : Path → Bool} {file : SourceFile} {p : Path} (text : s.IsText)
    (from_text : file.path.IsText) (to_text : p.IsText) (normal : p.Normal) :
    s.leadsTo isFile file p = s.finds isFile file p := by
  rw [leadsTo, finds]
  congr 1
  funext literal
  cases first : (s.candidates file.path literal).find? isFile with
  | none => rfl
  | some found =>
      have tried := List.mem_of_find?_eq_some first
      have settled : found.Normal := by
        obtain ⟨dir, -, rfl⟩ := List.mem_map.mp tried
        exact candidate_normal dir literal
      rw [Option.map_some, Bool.eq_iff_iff, beq_iff_eq, beq_iff_eq, Option.some_inj, Option.some_inj,
        (text.candidates from_text tried).key_eq_iff to_text, settled.normalize_eq_self, normal.normalize_eq_self]

end SearchSpace

namespace ImportGraph

open SearchSpace

/-- Whether an edge leads from one file to another. -/
def Imports (g : ImportGraph) (source target : Path) : Prop :=
  ∃ e ∈ g.edges, e.source = source ∧ e.target = .discovered target

instance (g : ImportGraph) (source target : Path) : Decidable (g.Imports source target) :=
  inferInstanceAs (Decidable (∃ e ∈ g.edges, e.source = source ∧ e.target = .discovered target))

/-- The files that import the one at a path: those at other paths with an edge to it. -/
def importers (g : ImportGraph) (files : List SourceFile) (p : Path) : List SourceFile :=
  files.filter fun file => file.path ≠ p ∧ g.Imports file.path p

/-- Importers are read off the edges alone. -/
theorem importers_of_edges {g : ImportGraph} {edges : List ImportEdge} (built : g.edges = edges)
    (files : List SourceFile) (p : Path) :
    g.importers files p = ImportGraph.importers { edges } files p := by
  subst built
  rfl

section Links

variable {s : SearchSpace} {isFile : Path → Bool} {files : List SourceFile}

/-- A link leads to a position exactly when its edge leads to the file there. -/
theorem target_of_mem_links {l : ImportLink} (member : l ∈ links s isFile files) :
    (∃ file, files[l.source]? = some file ∧ file.path = l.edge.source) ∧
    ((l.target = none ∧ ∀ p, l.edge.target ≠ .discovered p) ∨
      ∃ i file, l.target = some i ∧ files[i]? = some file ∧ l.edge.target = .discovered file.path) := by
  obtain ⟨i, file, at_i, literal, -, rfl⟩ := mem_links.mp member
  rw [linkIn]
  cases s.find? isFile file.path literal with
  | none => exact ⟨⟨file, at_i, rfl⟩, .inl ⟨rfl, fun p h => by cases h⟩⟩
  | some found =>
      refine ⟨⟨file, at_i, rfl⟩, ?_⟩
      dsimp only
      rcases targetIn_cases files found.path with ⟨-, eq⟩ | ⟨j, target, at_j, -, eq⟩ <;> rw [eq]
      · exact .inl ⟨rfl, fun p h => by cases h⟩
      · exact .inr ⟨j, target, rfl, at_j, rfl⟩

/-- Edges join given files. -/
theorem Imports.given {p q : Path} (h : (build s isFile files).Imports p q) :
    p ∈ files.map (·.path) ∧ q ∈ files.map (·.path) := by
  obtain ⟨e, edge, rfl, leads⟩ := h
  obtain ⟨l, member, rfl⟩ := List.mem_map.mp edge
  obtain ⟨⟨file, at_source, spelled⟩, ⟨-, outside⟩ | ⟨i, target, -, at_i, eq⟩⟩ :=
    target_of_mem_links member
  · exact absurd leads (outside q)
  · rw [eq] at leads
    cases leads
    exact ⟨List.mem_map.mpr ⟨file, List.mem_of_getElem? at_source, spelled⟩,
      List.mem_map.mpr ⟨target, List.mem_of_getElem? at_i, rfl⟩⟩

end Links

/-- Files with different keys have different paths. -/
theorem nodup_paths {files : List SourceFile} (distinct : (files.map (·.path.key)).Nodup) :
    (files.map (·.path)).Nodup := by
  refine .of_map Path.key ?_
  rwa [List.map_map]

theorem nodup_places (files : List SourceFile) : (files.zipIdx.map (·.2)).Nodup := by
  rw [List.zipIdx_map_snd]
  exact List.nodup_range'

theorem filter_eq_map_zipIdx (keep : SourceFile → Bool) (files : List SourceFile) :
    files.filter keep = (files.zipIdx.filter fun item => keep item.1).map (·.1) := by
  conv_lhs => rw [← List.zipIdx_map_fst 0 files, List.filter_map]
  rfl

section Build

variable {s : SearchSpace} {isFile : Path → Bool} {files : List SourceFile}

/-! ## The table -/

/-- The importers of all files whose path has given components. -/
def totalCount (links : List ImportLink) (files : List SourceFile) (parts : List Component) : Nat :=
  (files.zipIdx.filter fun item => item.1.path.components == parts).foldr
    (fun item sum => importerCount links item.2 + sum) 0

theorem countImporters_eq (links : List ImportLink) (files : List SourceFile) :
    countImporters links files = (Path.sort (distinctBy Path.components (files.map (·.path)))).map
      fun p => (p, totalCount links files p.components) := by
  have count (parts : List Component) :
      (((files.zipIdx.map fun item => (item.1.path.components, importerCount links item.2)).filter
        fun c => c.1 == parts).foldr (fun c sum => c.2 + sum) 0) = totalCount links files parts := by
    rw [totalCount, List.filter_map, List.foldr_map]
    rfl
  simp only [countImporters, count]

theorem inDegree_eq_totalCount {p : Path} (member : p ∈ files.map (·.path)) :
    (build s isFile files).inDegree p = totalCount (links s isFile files) files p.components := by
  have listed : ∃ q ∈ distinctBy Path.components (files.map (·.path)), q.components = p.components :=
    exists_mem_distinctBy member
  obtain ⟨q, kept, same⟩ := listed
  have sorted : p.components ∈
      (Path.sort (distinctBy Path.components (files.map (·.path)))).map Path.components :=
    List.mem_map.mpr ⟨q, List.mem_mergeSort.mpr kept, same⟩
  have table : (build s isFile files).degrees =
      ((Path.sort (distinctBy Path.components (files.map (·.path)))).map Path.components).map
        fun parts => (parts, totalCount (links s isFile files) files parts) := by
    simp only [degrees, build, countImporters_eq, List.map_map, Function.comp_def]
  rw [inDegree, table, List.lookup_graph _ sorted, Option.getD_some]

/-- Files at different positions have different paths. -/
theorem position_eq (distinct : (files.map (·.path)).Nodup) {i j : Nat} {a b : SourceFile}
    (at_i : files[i]? = some a) (at_j : files[j]? = some b) (same : a.path = b.path) : i = j := by
  have paths (k : Nat) : (files.map (·.path))[k]? = files[k]?.map (·.path) := List.getElem?_map
  have inRange := (List.getElem?_eq_some_iff.mp at_i).1
  refine (List.getElem?_inj (by simpa using inRange) distinct).mp ?_
  rw [paths, paths, at_i, at_j, Option.map_some, Option.map_some, same]

/-! ## Positions of importers -/

section Distinct

variable (distinct : (files.map (·.path)).Nodup)
include distinct

/-- A position is counted for a file just when it is the position of an importer. -/
theorem counted_iff {i j : Nat} {target : SourceFile} (at_i : files[i]? = some target) :
    (∃ l, (l ∈ links s isFile files ∧ l.target = some i ∧ l.source ≠ i) ∧ l.source = j) ↔
      ∃ file, files[j]? = some file ∧ file.path ≠ target.path ∧
        (build s isFile files).Imports file.path target.path := by
  constructor
  · rintro ⟨l, ⟨linked, leads, elsewhere⟩, rfl⟩
    obtain ⟨⟨file, at_source, spelled⟩, ⟨nowhere, -⟩ | ⟨k, other, to_k, at_k, eq⟩⟩ := target_of_mem_links linked
    · rw [nowhere] at leads
      cases leads
    · obtain rfl := Option.some.inj (leads.symm.trans to_k)
      obtain rfl := Option.some.inj (at_i.symm.trans at_k)
      refine ⟨file, at_source, fun same => elsewhere (position_eq distinct at_source at_i same), ?_⟩
      exact ⟨l.edge, List.mem_map_of_mem linked, spelled.symm, eq⟩
  · rintro ⟨importer, at_j, apart, e, edge, source, target⟩
    obtain ⟨l, linked, rfl⟩ := List.mem_map.mp edge
    obtain ⟨⟨file, at_source, spelled⟩, ⟨-, outside⟩ | ⟨k, other, to_k, at_k, eq⟩⟩ := target_of_mem_links linked
    · exact absurd target (outside _)
    · have here : l.source = j := position_eq distinct at_source at_j (spelled.trans source)
      have there : k = i := position_eq distinct at_k at_i (ImportTarget.discovered.inj (eq.symm.trans target))
      refine ⟨l, ⟨linked, there ▸ to_k, ?_⟩, here⟩
      rw [here]
      rintro rfl
      exact apart (congrArg SourceFile.path (Option.some.inj (at_j.symm.trans at_i)))

theorem importerCount_links {i : Nat} {target : SourceFile} (at_i : files[i]? = some target) :
    importerCount (links s isFile files) i = ((build s isFile files).importers files target.path).length := by
  -- the importers with their positions
  set placed := files.zipIdx.filter fun item =>
    item.1.path ≠ target.path ∧ (build s isFile files).Imports item.1.path target.path with placedIs
  have unplaced : (build s isFile files).importers files target.path = placed.map (·.1) :=
    filter_eq_map_zipIdx _ files
  have once : (placed.map (·.2)).Nodup := (nodup_places files).sublist (List.filter_sublist.map _)
  rw [unplaced, List.length_map, ← List.length_map (·.2), importerCount]
  refine ((List.perm_ext_iff_of_nodup (pairwise_distinctBy id _) once).mpr fun j => ?_).length_eq
  have counted := @counted_iff s isFile files distinct i j target at_i
  simpa [mem_distinctBy_id, placedIs, List.mem_zipIdx_iff_getElem?] using counted

end Distinct

variable (distinct : (files.map (·.path)).Nodup) (normal : ∀ p ∈ files.map (·.path), p.Normal)
include distinct normal

/-! ## Numbers of importers -/

theorem totalCount_links {i : Nat} {file : SourceFile} (at_i : files[i]? = some file) :
    totalCount (links s isFile files) files file.path.components =
      ((build s isFile files).importers files file.path).length := by
  have once : files.zipIdx.Nodup := .of_map (·.2) (nodup_places files)
  have alone : (files.zipIdx.filter fun item => item.1.path.components == file.path.components) = [(file, i)] := by
    refine List.perm_singleton.mp ((List.perm_ext_iff_of_nodup (once.filter _) (List.nodup_singleton _)).mpr ?_)
    rintro ⟨other, j⟩
    rw [List.mem_filter, List.mem_zipIdx_iff_getElem?, List.mem_singleton, beq_iff_eq, Prod.mk.injEq]
    constructor
    · rintro ⟨at_j, same⟩
      have path : other.path = file.path := by
        rw [(normal _ (List.mem_map_of_mem (List.mem_of_getElem? at_j))).2, same,
          ← (normal _ (List.mem_map_of_mem (List.mem_of_getElem? at_i))).2]
      obtain rfl := position_eq distinct at_j at_i path
      exact ⟨Option.some.inj (at_j.symm.trans at_i), rfl⟩
    · rintro ⟨rfl, rfl⟩
      exact ⟨at_i, rfl⟩
  rw [totalCount, alone, List.foldr_cons, List.foldr_nil, Nat.add_zero,
    importerCount_links distinct at_i]

/-- The in-degrees are the numbers of importers, in the order of the paths. -/
theorem inDegrees_build :
    (build s isFile files).inDegrees =
      (Path.sort (files.map (·.path))).map fun p => (p, ((build s isFile files).importers files p).length) := by
  have apart : (files.map (·.path)).Pairwise fun p q => p.components ≠ q.components :=
    distinct.imp_of_mem fun {p q} first second other same =>
      other (by rw [(normal p first).2, same, ← (normal q second).2])
  have table : (build s isFile files).inDegrees = countImporters (links s isFile files) files := rfl
  rw [table, countImporters_eq, distinctBy_of_pairwise apart]
  refine List.map_congr_left fun p listed => ?_
  obtain ⟨file, member, rfl⟩ := List.mem_map.mp (List.mem_mergeSort.mp listed)
  obtain ⟨i, at_i⟩ := List.getElem?_of_mem member
  rw [totalCount_links distinct normal at_i]

theorem inDegree_eq_importers {file : SourceFile} (member : file ∈ files) :
    (build s isFile files).inDegree file.path = ((build s isFile files).importers files file.path).length := by
  obtain ⟨i, at_i⟩ := List.getElem?_of_mem member
  rw [inDegree_eq_totalCount (List.mem_map_of_mem member), totalCount_links distinct normal at_i]

/-- A given file has importers exactly when another file has an edge to it. -/
theorem inDegree_pos {p : Path} (member : p ∈ files.map (·.path)) :
    0 < (build s isFile files).inDegree p ↔ ∃ q, q ≠ p ∧ (build s isFile files).Imports q p := by
  obtain ⟨file, listed, rfl⟩ := List.mem_map.mp member
  rw [inDegree_eq_importers distinct normal listed, List.length_pos_iff_exists_mem]
  simp only [importers, List.mem_filter, decide_eq_true_eq]
  constructor
  · rintro ⟨importer, -, imports⟩
    exact ⟨importer.path, imports⟩
  · rintro ⟨q, other, imports⟩
    obtain ⟨importer, among, rfl⟩ := List.mem_map.mp imports.given.1
    exact ⟨importer, among, other, imports⟩

omit distinct normal in
/-- A given file is imported by a file just when that file leads to it. -/
theorem imports_iff (distinct : (files.map (·.path.key)).Nodup) {p q : Path} (given : p ∈ files.map (·.path)) :
    (build s isFile files).Imports q p ↔ ∃ file ∈ files, file.path = q ∧ s.leadsTo isFile file p := by
  have leads (pair : Path × String) : (edgeIn s isFile files pair).target = .discovered p ↔
      ((s.candidates pair.1 pair.2).find? isFile).map Path.key = some p.key := by
    rw [target_edgeIn_candidates]
    cases (s.candidates pair.1 pair.2).find? isFile with
    | none => simp
    | some found =>
        rw [Option.elim_some, discovered_targetIn distinct, Option.map_some, Option.some_inj]
        exact ⟨fun same => same.2.symm, fun same => ⟨given, same.symm⟩⟩
  simp only [Imports, mem_edges, leadsTo, List.any_eq_true, beq_iff_eq]
  constructor
  · rintro ⟨_, ⟨i, file, at_i, literal, declared, rfl⟩, rfl, target⟩
    rw [edge_linkIn, leads] at target
    rw [edge_linkIn, source_edgeIn]
    exact ⟨file, List.mem_of_getElem? at_i, rfl, literal, declared, target⟩
  · rintro ⟨file, member, rfl, literal, declared, found⟩
    obtain ⟨i, at_i⟩ := List.getElem?_of_mem member
    refine ⟨_, ⟨i, file, at_i, literal, declared, rfl⟩, ?_⟩
    rw [edge_linkIn, source_edgeIn]
    exact ⟨rfl, (leads (file.path, literal)).mpr found⟩

end Build

end ImportGraph

end ProtoTree
