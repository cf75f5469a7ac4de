import ProtoTree.Proofs.ImportGraph.FirstMatch
import ProtoTree.Proofs.SearchRoots
import ProtoTree.Proofs.SourceSet

/-! # Searching the emitted roots

The graph looks a literal up next to the importing file, under the primary and
extra roots, and under ancestors of the primary root. A compiler looks under the
emitted roots in order. The two agree on what the primary and extra roots hold.
They may part where a file is found next to its importer, and where an ancestor
farther out was needed by an earlier import.
-/

namespace ProtoTree

namespace SourceSet

/-- The first emitted root under which a file stands at a literal. -/
def firstRoot (s : SourceSet) (isFile : Path → Bool) (literal : String) : Option Path :=
  s.roots.find? (SearchSpace.holds isFile literal)

/-- Whether a literal leads somewhere that it does not name under any emitted root. -/
def Misses (s : SourceSet) (literal : String) : Prop :=
  ∃ e ∈ s.graph.edges, e.literal = literal ∧
    ∃ p ∈ e.target.path?, ∀ root ∈ s.roots, SearchSpace.candidate root literal ≠ p

end SourceSet

namespace ImportGraph

/-- The ancestor roots that imports needed before they needed a directory. -/
def neededBefore (g : ImportGraph) (dir : Path) : List Path :=
  g.ancestorRoots.takeWhile (· != dir)

/-- An edge through an ancestor goes through the nearest one that holds the literal. -/
theorem find?_of_ancestor {s : SearchSpace} {isFile : Path → Bool} {files : List SourceFile}
    {e : ImportEdge} (edge : e ∈ (build s isFile files).edges) {dir : Path}
    (through : e.ancestor = some dir) :
    s.ancestors.find? (SearchSpace.holds isFile e.literal) = some dir := by
  obtain ⟨-, ⟨-, -, nowhere⟩ | ⟨found, search, via, -⟩⟩ := edge_cases edge
  · rw [nowhere] at through
    cases through
  · rcases s.find?_cases isFile e.source e.literal with
      ⟨_, -, eq⟩ | ⟨-, _, first, eq⟩ | ⟨-, -, eq⟩
    · obtain rfl := Option.some.inj (search.symm.trans eq)
      rw [via] at through
      cases through
    · obtain rfl := Option.some.inj (search.symm.trans eq)
      rw [via] at through
      exact Option.some.inj through ▸ first
    · rw [search] at eq
      cases eq

theorem nodup_ancestorRoots (g : ImportGraph) : g.ancestorRoots.Nodup :=
  (pairwise_distinctBy Path.key _).imp fun different same => different (congrArg Path.key same)

/-- The ancestor roots are the ancestors that some edge goes through: no two ancestors of one path have one key. -/
theorem mem_ancestorRoots {s : SearchSpace} {isFile : Path → Bool} {files : List SourceFile}
    (normal : s.primary.Normal) (absolute : s.primary.isAbsolute) {dir : Path} :
    dir ∈ (build s isFile files).ancestorRoots ↔
      ∃ e ∈ (build s isFile files).edges, e.ancestor = some dir := by
  have climbed {e : ImportEdge} (edge : e ∈ (build s isFile files).edges) {dir : Path}
      (through : e.ancestor = some dir) : dir.Above s.primary :=
    ((normal.mem_ancestors_iff absolute).mp (List.mem_of_find?_eq_some (find?_of_ancestor edge through))).1
  constructor
  · intro h
    exact List.mem_filterMap.mp (mem_of_mem_distinctBy h)
  · rintro ⟨e, edge, through⟩
    have listed : ∃ kept ∈ (build s isFile files).ancestorRoots, kept.key = dir.key :=
      exists_mem_distinctBy (List.mem_filterMap.mpr ⟨e, edge, through⟩)
    obtain ⟨kept, member, same⟩ := listed
    obtain ⟨other, otherEdge, otherThrough⟩ := List.mem_filterMap.mp (mem_of_mem_distinctBy member)
    exact (climbed otherEdge otherThrough).eq_of_key (climbed edge through) same ▸ member

end ImportGraph

namespace SourceSetRequest

open ImportGraph SearchSpace

variable {σ : Type} [FileSystem σ] (r : SourceSetRequest) (fs : σ) (discovered : List Path)

/-- The directories of a request are text. -/
structure IsText (r : SourceSetRequest) : Prop where
  base : r.base.IsText
  primary : r.primary.IsText
  extra : ∀ dir ∈ r.extra, dir.IsText

variable {r} in
theorem IsText.space (text : r.IsText) : r.space.IsText where
  primary := text.primary.absolutize text.base
  extra := List.forall_mem_map.mpr fun dir given => (text.extra dir given).absolutize text.base

section AbsoluteBase

variable {r} (absolute : r.base.isAbsolute)
include absolute

theorem primary_rooted : r.space.primary.Normal ∧ r.space.primary.isAbsolute :=
  ⟨Path.normal_absolutize _ _, Path.isAbsolute_absolutize absolute _⟩

theorem pairwise_space_ancestors : r.space.ancestors.Pairwise fun near far => Path.Above far near := by
  obtain ⟨normal, rooted⟩ := primary_rooted absolute
  exact normal.pairwise_ancestors rooted r.maxAscent

theorem mem_ancestorRoots_resolve (detects : r.detectImports) {dir : Path} :
    dir ∈ (r.resolve fs discovered).graph.ancestorRoots ↔
      ∃ e ∈ (r.resolve fs discovered).graph.edges, e.ancestor = some dir := by
  obtain ⟨normal, rooted⟩ := primary_rooted absolute
  rw [graph_resolve r fs discovered detects]
  exact mem_ancestorRoots normal rooted

/-- Ancestor roots are among the ancestors that are tried. -/
theorem ancestor_of_mem_roots (detects : r.detectImports) {dir : Path}
    (needed : dir ∈ (r.resolve fs discovered).graph.ancestorRoots) : dir ∈ r.space.ancestors := by
  obtain ⟨e, edge, through⟩ := (mem_ancestorRoots_resolve fs discovered absolute detects).mp needed
  rw [graph_resolve r fs discovered detects] at edge
  exact List.mem_of_find?_eq_some (find?_of_ancestor edge through)

/-- The directories that are emitted, before any are dropped, are in normal form. -/
theorem emitted_normal (detects : r.detectImports) {dir : Path}
    (member : dir ∈ r.primaryRoot :: r.extraRoots ++ (r.resolve fs discovered).graph.ancestorRoots) :
    dir.Normal ∧ dir.isAbsolute := by
  rcases List.mem_append.mp member with direct | ancestor
  · rcases List.mem_cons.mp direct with rfl | extra
    · exact primary_rooted absolute
    · obtain ⟨given, -, rfl⟩ := List.mem_map.mp extra
      exact ⟨Path.normal_absolutize _ _, Path.isAbsolute_absolutize absolute _⟩
  · obtain ⟨normal, rooted⟩ := primary_rooted absolute
    exact ((normal.mem_ancestors_iff rooted).mp
      (ancestor_of_mem_roots fs discovered absolute detects ancestor)).1.far

/-- With an absolute base, the directories are emitted as they are searched, but one for each key. -/
theorem roots_eq (detects : r.detectImports) :
    (r.resolve fs discovered).roots = distinctBy Path.key
      (r.primaryRoot :: r.extraRoots ++ (r.resolve fs discovered).graph.ancestorRoots) := by
  rw [roots_resolve r fs discovered detects, SearchRoots.dedupe_eq]
  congr 1
  refine (List.map_congr_left fun dir member => ?_).trans (List.map_id _)
  obtain ⟨normal, rooted⟩ := emitted_normal fs discovered absolute detects member
  exact normal.absolutize_eq_self rooted r.base

/-- Every directory that is searched has its key among the emitted roots. -/
theorem exists_root_key (detects : r.detectImports) {dir : Path}
    (member : dir ∈ r.primaryRoot :: r.extraRoots ++ (r.resolve fs discovered).graph.ancestorRoots) :
    ∃ root ∈ (r.resolve fs discovered).roots, root.Normal ∧ root.key = dir.key := by
  have kept : ∃ root ∈ distinctBy Path.key
      (r.primaryRoot :: r.extraRoots ++ (r.resolve fs discovered).graph.ancestorRoots), root.key = dir.key :=
    exists_mem_distinctBy member
  obtain ⟨root, kept, same⟩ := kept
  refine ⟨root, ?_, (emitted_normal fs discovered absolute detects (mem_of_mem_distinctBy kept)).1, same⟩
  rwa [roots_eq fs discovered absolute detects]

section Text

variable (text : r.IsText) (detects : r.detectImports)
include text detects

theorem emitted_text {dir : Path}
    (member : dir ∈ r.primaryRoot :: r.extraRoots ++ (r.resolve fs discovered).graph.ancestorRoots) :
    dir.IsText := by
  rcases List.mem_append.mp member with direct | ancestor
  · rcases List.mem_cons.mp direct with rfl | extra
    · exact text.space.primary
    · exact text.space.extra dir extra
  · exact text.space.primary.ancestors (ancestor_of_mem_roots fs discovered absolute detects ancestor)

/-- Directories that are text are emitted as they are searched. -/
theorem roots_eq_eraseDups :
    (r.resolve fs discovered).roots =
      (r.primaryRoot :: r.extraRoots ++ (r.resolve fs discovered).graph.ancestorRoots).eraseDups := by
  rw [roots_eq fs discovered absolute detects]
  refine distinctBy_eq_eraseDups fun dir first other second same => ?_
  have texts {dir : Path} := @emitted_text _ _ r fs discovered absolute text detects dir
  have settled {dir : Path} := @emitted_normal _ _ r fs discovered absolute detects dir
  rwa [(texts first).key_eq_iff (texts second), (settled first).1.normalize_eq_self,
    (settled second).1.normalize_eq_self] at same

/-- A first match among the emitted roots is a first match before duplicates are dropped. -/
theorem firstRoot_eq (literal : String) :
    (r.resolve fs discovered).firstRoot (FileSystem.isFile fs) literal =
      (r.primaryRoot :: r.extraRoots ++ (r.resolve fs discovered).graph.ancestorRoots).find?
        (holds (FileSystem.isFile fs) literal) := by
  rw [SourceSet.firstRoot, roots_eq_eraseDups fs discovered absolute text detects, ← distinctBy_id_eq_eraseDups]
  exact find?_distinctBy (fun a b (same : a = b) => congrArg _ same) _

end Text

end AbsoluteBase

/-- A resolved edge leads to a path with the key of the one that was found, and among paths that are text to that one,
    up to the spelling of a given file. -/
theorem path?_target (detects : r.detectImports) {e : ImportEdge}
    (edge : e ∈ (r.resolve fs discovered).graph.edges) {found : FoundImport}
    (search : r.space.find? (FileSystem.isFile fs) e.source e.literal = some found) :
    ∃ p, e.target.path? = some p ∧ p.key = found.path.key ∧
      ((∀ q ∈ discovered, q.IsText) → found.path.IsText →
        p.normalize = found.path ∧ ((∀ q ∈ discovered, q.Normal) → p = found.path)) := by
  rw [graph_resolve r fs discovered detects] at edge
  obtain ⟨-, ⟨missing, -, -⟩ | ⟨other, otherSearch, -, target⟩⟩ := edge_cases edge
  · rw [search] at missing
    cases missing
  · obtain rfl := Option.some.inj (search.symm.trans otherSearch)
    obtain ⟨-, dir, -, spelled⟩ := path_of_find? search
    have normal : found.path.Normal := spelled ▸ candidate_normal dir e.literal
    rw [target]
    rcases targetIn_cases (discovered.map (SourceFile.scan fs)) found.path with
      ⟨-, eq⟩ | ⟨i, file, at_i, same, eq⟩
    · exact ⟨found.path, by rw [eq]; rfl, rfl, fun _ _ => ⟨normal.normalize_eq_self, fun _ => rfl⟩⟩
    · obtain ⟨given, member, rfl⟩ := List.mem_map.mp (List.mem_of_getElem? at_i)
      rw [path_scan] at same eq
      refine ⟨given, by rw [eq]; rfl, same, fun texts text => ?_⟩
      have settled : given.normalize = found.path := by
        rw [(texts given member).key_eq_iff text] at same
        rw [same, normal.normalize_eq_self]
      exact ⟨settled, fun all => by rw [← settled, (all given member).normalize_eq_self]⟩

theorem find?_of_resolved (detects : r.detectImports) {e : ImportEdge}
    (edge : e ∈ (r.resolve fs discovered).graph.edges) {p : Path} (target : e.target.path? = some p) :
    ∃ found, r.space.find? (FileSystem.isFile fs) e.source e.literal = some found ∧
      e.ancestor = found.ancestor ∧ p.key = found.path.key ∧
      ((∀ q ∈ discovered, q.IsText) → found.path.IsText →
        p.normalize = found.path ∧ ((∀ q ∈ discovered, q.Normal) → p = found.path)) := by
  have built := edge
  rw [graph_resolve r fs discovered detects] at built
  obtain ⟨-, ⟨-, nowhere, -⟩ | ⟨found, search, via, -⟩⟩ := edge_cases built
  · rw [nowhere] at target
    cases target
  · obtain ⟨q, path, same, spelled⟩ := path?_target r fs discovered detects edge search
    obtain rfl := Option.some.inj (target.symm.trans path)
    exact ⟨found, search, via, same, spelled⟩

/-- Edges start at given files. -/
theorem source_mem_discovered (detects : r.detectImports) {e : ImportEdge}
    (edge : e ∈ (r.resolve fs discovered).graph.edges) : e.source ∈ discovered := by
  rw [graph_resolve r fs discovered detects] at edge
  obtain ⟨⟨file, listed, source, -⟩, -⟩ := edge_cases edge
  obtain ⟨given, member, rfl⟩ := List.mem_map.mp listed
  rwa [← source, path_scan]

variable {r}

/-- A resolved import is found under a directory that has its key among the emitted roots, or in its importer's own
    directory. -/
theorem emitted_or_beside (absolute : r.base.isAbsolute) (detects : r.detectImports) {e : ImportEdge}
    (edge : e ∈ (r.resolve fs discovered).graph.edges) {found : FoundImport}
    (search : r.space.find? (FileSystem.isFile fs) e.source e.literal = some found)
    (via : e.ancestor = found.ancestor) :
    (∃ dir ∈ r.primaryRoot :: r.extraRoots ++ (r.resolve fs discovered).graph.ancestorRoots,
        candidate dir e.literal = found.path) ∨
      ∃ dir ∈ e.source.parent?, holds (FileSystem.isFile fs) e.literal dir ∧ candidate dir e.literal = found.path := by
  rcases r.space.find?_cases (FileSystem.isFile fs) e.source e.literal with
    ⟨dir, first, eq⟩ | ⟨-, dir, -, eq⟩ | ⟨-, -, eq⟩
  · obtain rfl := Option.some.inj (search.symm.trans eq)
    rcases List.mem_append.mp (List.mem_of_find?_eq_some first) with beside | given
    · exact .inr ⟨dir, by simpa using beside, List.find?_some first, rfl⟩
    · exact .inl ⟨dir, List.mem_append_left _ given, rfl⟩
  · obtain rfl := Option.some.inj (search.symm.trans eq)
    have needed := (mem_ancestorRoots_resolve fs discovered absolute detects).mpr ⟨e, edge, via⟩
    exact .inl ⟨dir, List.mem_append_right _ needed, rfl⟩
  · rw [search] at eq
    cases eq

/-- Every resolved import is found through an emitted root, or through its importer's own directory: at a path that
    is read as the same text, and at the path itself when all paths are text. -/
theorem resolved_under_root_or_beside (absolute : r.base.isAbsolute) (detects : r.detectImports)
    {e : ImportEdge} (edge : e ∈ (r.resolve fs discovered).graph.edges) {p : Path}
    (target : e.target.path? = some p) :
    ((∃ root ∈ (r.resolve fs discovered).roots, (candidate root e.literal).text = p.normalize.text) ∨
      ∃ dir ∈ e.source.parent?, holds (FileSystem.isFile fs) e.literal dir ∧
        (candidate dir e.literal).text = p.normalize.text ∧ dir.normalize ∉ (r.resolve fs discovered).roots) ∧
    (r.IsText → (∀ q ∈ discovered, q.IsText) →
      (∃ root ∈ (r.resolve fs discovered).roots, candidate root e.literal = p.normalize) ∨
      ∃ dir ∈ e.source.parent?, holds (FileSystem.isFile fs) e.literal dir ∧
        candidate dir e.literal = p.normalize ∧ dir.normalize ∉ (r.resolve fs discovered).roots) := by
  obtain ⟨found, search, via, same, spelled⟩ := find?_of_resolved r fs discovered detects edge target
  obtain ⟨-, tried, member, at_tried⟩ := path_of_find? search
  have read : found.path.text = p.normalize.text := by
    have normal : found.path.Normal := at_tried ▸ candidate_normal tried e.literal
    rw [← Path.key_eq, same, Path.key_eq, normal.normalize_eq_self]
  have place := emitted_or_beside fs discovered absolute detects edge search via
  constructor
  · rcases place with ⟨dir, emitted, leads⟩ | ⟨dir, beside, held, leads⟩
    · obtain ⟨root, kept, settled, alike⟩ := exists_root_key fs discovered absolute detects emitted
      refine .inl ⟨root, kept, ?_⟩
      rw [← read, ← leads]
      exact text_candidate settled (emitted_normal fs discovered absolute detects emitted).1 alike e.literal
    · by_cases root : dir.normalize ∈ (r.resolve fs discovered).roots
      · exact .inl ⟨dir.normalize, root, by rw [candidate_normalize, leads, read]⟩
      · exact .inr ⟨dir, beside, held, by rw [leads, read], root⟩
  · intro text texts
    have found_text : found.path.IsText :=
      text.space.candidates (texts _ (source_mem_discovered r fs discovered detects edge))
        (List.mem_map.mpr ⟨tried, member, at_tried.symm⟩)
    rw [(spelled texts found_text).1]
    rcases place with ⟨dir, emitted, leads⟩ | ⟨dir, beside, held, leads⟩
    · refine .inl ⟨dir, ?_, leads⟩
      rwa [roots_eq_eraseDups fs discovered absolute text detects, List.mem_eraseDups]
    · by_cases root : dir.normalize ∈ (r.resolve fs discovered).roots
      · exact .inl ⟨dir.normalize, root, by rw [candidate_normalize, leads]⟩
      · exact .inr ⟨dir, beside, held, leads, root⟩

/-! ### Files in four places -/

/-- A file that imports four others: one beside it, one in an extra root, two in ancestors of the primary root. -/
def importer : Path × Text.Bytes :=
  MemoryFiles.textFile "/a/b/s/m.proto"
    "import 'n.proto';\nimport 'd.proto';\nimport 'x.proto';\nimport 'y.proto';"

/-- The importer and the files that it may lead to. -/
def scattered : List (Path × Text.Bytes) :=
  importer :: ["/a/b/s/n.proto", "/l/d.proto", "/l/v/../d.proto", "/x.proto", "/a/y.proto",
    "/y.proto"].map (MemoryFiles.textFile · "")

def scatteredTree : MemoryFiles := .ofFiles (.ofString "/") scattered

/-- The source set of some of the scattered files, with directories taken from a base. -/
def resolveScattered (base : String) (discovered : List Path) : SourceSet :=
  resolve { base := .ofString base, primary := .ofString "b", extra := [.ofString "/l"] }
    scatteredTree discovered

theorem importer_declares :
    Declarations.ofText (Text.decodeLossy importer.2) =
      ⟨["n.proto", "d.proto", "x.proto", "y.proto"], false, false⟩ := by
  decide +kernel

theorem scanned_importer {path : Path}
    (added : MemoryFiles.lastAdded? (.ofString "/") scattered path = some importer.2) :
    scanned (.ofString "/") scattered path =
      ⟨path, ⟨["n.proto", "d.proto", "x.proto", "y.proto"], false, false⟩, none⟩ := by
  rw [scanned, added, Option.getD_some, importer_declares]

/-- The edges under an absolute base and under a relative one, and one to a file that is given in another spelling. -/
theorem scattered_edges :
    (resolveScattered "/a" [importer.1]).graph.edges =
        [⟨importer.1, "n.proto", .external (.ofString "/a/b/s/n.proto"), none⟩,
          ⟨importer.1, "d.proto", .external (.ofString "/l/d.proto"), none⟩,
          ⟨importer.1, "x.proto", .external (.ofString "/x.proto"), some (.ofString "/")⟩,
          ⟨importer.1, "y.proto", .external (.ofString "/a/y.proto"), some (.ofString "/a")⟩] ∧
      (resolveScattered "a" [.ofString "a/b/s/m.proto"]).graph.edges =
        [⟨.ofString "a/b/s/m.proto", "n.proto", .external (.ofString "a/b/s/n.proto"), none⟩,
          ⟨.ofString "a/b/s/m.proto", "d.proto", .external (.ofString "/l/d.proto"), none⟩,
          ⟨.ofString "a/b/s/m.proto", "x.proto", .external (.ofString "x.proto"), some (.ofString "")⟩,
          ⟨.ofString "a/b/s/m.proto", "y.proto", .external (.ofString "a/y.proto"), some (.ofString "a")⟩] ∧
      ⟨importer.1, "d.proto", .discovered (.ofString "/l/v/../d.proto"), none⟩ ∈
        (resolveScattered "/a" [importer.1, .ofString "/l/v/../d.proto"]).graph.edges := by
  refine ⟨?_, ?_, ?_⟩
  all_goals rw [resolveScattered, scatteredTree, resolve_ofFiles rfl (by decide), List.map_cons,
    scanned_importer (by decide)]
  all_goals decide +kernel

theorem scattered_roots :
    (resolveScattered "/a" [importer.1]).roots =
      [.ofString "/a/b", .ofString "/l", .ofString "/", .ofString "/a"] := by
  rw [resolveScattered, roots_resolve _ _ _ rfl, ImportGraph.ancestorRoots, ← resolveScattered,
    scattered_edges.1]
  decide

/-! ### Directories that look alike -/

/-- A directory whose name is no text, and one whose name is what that name is read as. -/
def hiddenDir : Path := .withByte "/" 0xFF ""

def hidingDir : Path := .ofString "/\uFFFD"

/-- A file that may be found in one of the two directories only. -/
def hidden : List (Path × Text.Bytes) :=
  [MemoryFiles.textFile "/p/m.proto" "import 'd.proto';", MemoryFiles.textFile "/\uFFFD/p/m.proto" "import 'd.proto';",
    MemoryFiles.textFile "/\uFFFD/d.proto" ""]

def hiddenTree : MemoryFiles := .ofFiles (.ofString "/") hidden

/-- The source set of the file in a primary root. -/
def resolveHidden (primary : String) (extra : List Path) : SourceSet :=
  resolve { base := .ofString "/", primary := .ofString primary, extra } hiddenTree
    [.ofString (primary ++ "/m.proto")]

theorem hidden_edges :
    (resolveHidden "/p" [hiddenDir, hidingDir]).graph.edges =
        [⟨.ofString "/p/m.proto", "d.proto", .external (.ofString "/\uFFFD/d.proto"), none⟩] ∧
      (resolveHidden "/\uFFFD/p" [hiddenDir]).graph.edges =
        [⟨.ofString "/\uFFFD/p/m.proto", "d.proto", .external (.ofString "/\uFFFD/d.proto"), some hidingDir⟩] := by
  have declares : ∀ primary ∈ ["/p", "/\uFFFD/p"],
      scanned (.ofString "/") hidden (.ofString (primary ++ "/m.proto")) =
        ⟨.ofString (primary ++ "/m.proto"), ⟨["d.proto"], false, false⟩, none⟩ := by
    decide +kernel
  constructor
  · rw [resolveHidden, hiddenTree, resolve_ofFiles rfl (by decide), List.map_singleton, declares "/p" (by decide)]
    decide +kernel
  · rw [resolveHidden, hiddenTree, resolve_ofFiles rfl (by decide), List.map_singleton,
      declares "/\uFFFD/p" (by decide)]
    decide +kernel

/-- Of two directories that look alike only the first is emitted. -/
theorem hidden_roots :
    (resolveHidden "/p" [hiddenDir, hidingDir]).roots = [.ofString "/p", hiddenDir] ∧
      (resolveHidden "/\uFFFD/p" [hiddenDir]).roots = [.ofString "/\uFFFD/p", hiddenDir] := by
  obtain ⟨given, climbed⟩ := hidden_edges
  constructor
  · rw [resolveHidden, roots_resolve _ _ _ rfl, ImportGraph.ancestorRoots, ← resolveHidden, given]
    decide
  · rw [resolveHidden, roots_resolve _ _ _ rfl, ImportGraph.ancestorRoots, ← resolveHidden, climbed]
    decide +kernel

/-- No emitted root holds what was found in the directory that is dropped. -/
theorem hidden_firstRoot :
    (resolveHidden "/p" [hiddenDir, hidingDir]).firstRoot (FileSystem.isFile hiddenTree) "d.proto" = none ∧
      (resolveHidden "/\uFFFD/p" [hiddenDir]).firstRoot (FileSystem.isFile hiddenTree) "d.proto" = none := by
  rw [SourceSet.firstRoot, SourceSet.firstRoot, hidden_roots.1, hidden_roots.2, hiddenTree, MemoryFiles.isFile_eq]
  decide

/-! ### Lost imports -/

/-- No root leads to what lies beside its importer. Under a relative base none leads to an ancestor either, none
    leads to a given file in another spelling than the normal one, and none leads to a directory that looks like an
    earlier one. -/
theorem resolved_under_no_root :
    (resolveScattered "/a" [importer.1]).Misses "n.proto" ∧
    (resolveScattered "a" [.ofString "a/b/s/m.proto"]).Misses "x.proto" ∧
    (resolveScattered "/a" [importer.1, .ofString "/l/v/../d.proto"]).Misses "d.proto" ∧
    (resolveHidden "/p" [hiddenDir, hidingDir]).Misses "d.proto" := by
  refine ⟨?_, ?_, ⟨_, scattered_edges.2.2, rfl, _, rfl, ?_⟩, ?_⟩
  · rw [SourceSet.Misses, scattered_edges.1, scattered_roots]
    decide
  · rw [SourceSet.Misses, scattered_edges.2.1, resolveScattered, roots_resolve _ _ _ rfl, ImportGraph.ancestorRoots,
      ← resolveScattered, scattered_edges.2.1]
    decide
  · intro root _ leads
    have normal : (Path.ofString "/l/v/../d.proto").Normal :=
      leads ▸ candidate_normal root "d.proto"
    exact absurd normal (by decide)
  · rw [SourceSet.Misses, hidden_edges.1, hidden_roots.1]
    decide

theorem external_edge :
    ⟨importer.1, "d.proto", .external (.ofString "/l/d.proto"), none⟩ ∈
      (resolveScattered "/a" [importer.1]).graph.edges := by
  rw [scattered_edges.1]
  exact List.mem_cons_of_mem _ List.mem_cons_self

/-- The directories of the scattered files are text. -/
theorem scattered_text : IsText { base := .ofString "/a", primary := .ofString "b", extra := [.ofString "/l"] } where
  base := Path.isText_ofString "/a"
  primary := Path.isText_ofString "b"
  extra := List.forall_mem_singleton.mpr (Path.isText_ofString "/l")

theorem importer_text : ∀ q ∈ [importer.1], q.IsText := List.forall_mem_singleton.mpr (Path.isText_ofString _)

theorem external_under_extra_root :
    ∃ root ∈ (resolveScattered "/a" [importer.1]).roots,
      candidate root "d.proto" = .ofString "/l/d.proto" := by
  have settled : (Path.ofString "/l/d.proto").normalize = .ofString "/l/d.proto" := by decide
  have found := (resolved_under_root_or_beside _ _ rfl rfl external_edge rfl).2 scattered_text importer_text
  rw [settled] at found
  rcases found with lies | ⟨dir, beside, -, leads, -⟩
  · exact lies
  · have apart : ∀ dir ∈ importer.1.parent?, candidate dir "d.proto" ≠ .ofString "/l/d.proto" := by decide
    exact absurd leads (apart dir beside)

/-- Where all paths are text, what the primary root or an extra root holds is what the emitted roots lead to, whatever
    ancestors follow. -/
theorem firstRoot_of_direct (absolute : r.base.isAbsolute) (text : r.IsText) (texts : ∀ q ∈ discovered, q.IsText)
    (detects : r.detectImports) {e : ImportEdge} (edge : e ∈ (r.resolve fs discovered).graph.edges)
    (notBeside : ∀ dir ∈ e.source.parent?, holds (FileSystem.isFile fs) e.literal dir = false)
    (direct : ∃ dir ∈ r.primaryRoot :: r.extraRoots, holds (FileSystem.isFile fs) e.literal dir) :
    ∃ root p, (r.resolve fs discovered).firstRoot (FileSystem.isFile fs) e.literal = some root ∧
      e.target.path? = some p ∧ p.normalize = candidate root e.literal ∧
      ((∀ q ∈ discovered, q.Normal) → p = candidate root e.literal) := by
  obtain ⟨root, first⟩ := Option.isSome_iff_exists.mp (List.find?_isSome.mpr direct)
  have skipped : e.source.parent?.toList.find? (holds (FileSystem.isFile fs) e.literal) = none :=
    List.find?_eq_none.mpr fun dir member => by simp [notBeside dir (by simpa using member)]
  have searched : (r.space.direct e.source).find? (holds (FileSystem.isFile fs) e.literal) =
      some root := by
    rw [SearchSpace.direct, List.find?_append, skipped]
    exact first
  have search : r.space.find? (FileSystem.isFile fs) e.source e.literal =
      some ⟨candidate root e.literal, none⟩ := by
    rcases r.space.find?_cases (FileSystem.isFile fs) e.source e.literal with
      ⟨dir, other, eq⟩ | ⟨missed, -⟩ | ⟨missed, -⟩
    · obtain rfl := Option.some.inj (searched.symm.trans other)
      exact eq
    · rw [searched] at missed
      cases missed
    · rw [searched] at missed
      cases missed
  have root_text : root.IsText := emitted_text fs discovered absolute text detects
    (List.mem_append_left _ (List.mem_of_find?_eq_some first))
  obtain ⟨p, target, -, spelled⟩ := path?_target r fs discovered detects edge search
  obtain ⟨settled, exactly⟩ := spelled texts (isText_candidate root_text e.literal)
  refine ⟨root, p, ?_, target, settled, exactly⟩
  rw [firstRoot_eq fs discovered absolute text detects, List.find?_append, first]
  rfl

theorem external_not_beside :
    ∀ dir ∈ importer.1.parent?, holds (FileSystem.isFile scatteredTree) "d.proto" dir = false := by
  rw [scatteredTree, MemoryFiles.isFile_eq]
  decide

theorem external_in_extra : holds (FileSystem.isFile scatteredTree) "d.proto" (.ofString "/l") := by
  rw [scatteredTree, MemoryFiles.isFile_eq]
  decide

theorem hidden_not_beside :
    (∀ dir ∈ (Path.ofString "/p/m.proto").parent?, holds (FileSystem.isFile hiddenTree) "d.proto" dir = false) ∧
      holds (FileSystem.isFile hiddenTree) "d.proto" hidingDir := by
  rw [hiddenTree, MemoryFiles.isFile_eq]
  decide

/-- A given file keeps its own spelling in the graph, while roots lead to the normal one. And what an extra root holds
    is under no emitted root when an earlier one looks like it. -/
theorem direct_respelled :
    (¬ ∀ e ∈ (resolveScattered "/a" [importer.1, .ofString "/l/v/../d.proto"]).graph.edges,
      (∀ dir ∈ e.source.parent?, holds (FileSystem.isFile scatteredTree) e.literal dir = false) →
      (∃ dir ∈ [Path.ofString "/a/b", .ofString "/l"],
        holds (FileSystem.isFile scatteredTree) e.literal dir) →
      ∃ root ∈ (resolveScattered "/a" [importer.1, .ofString "/l/v/../d.proto"]).firstRoot
        (FileSystem.isFile scatteredTree) e.literal, e.target.path? = some (candidate root e.literal)) ∧
    ¬ ∀ e ∈ (resolveHidden "/p" [hiddenDir, hidingDir]).graph.edges,
      (∀ dir ∈ e.source.parent?, holds (FileSystem.isFile hiddenTree) e.literal dir = false) →
      (∃ dir ∈ [Path.ofString "/p", hiddenDir, hidingDir], holds (FileSystem.isFile hiddenTree) e.literal dir) →
      ((resolveHidden "/p" [hiddenDir, hidingDir]).firstRoot (FileSystem.isFile hiddenTree) e.literal).isSome := by
  constructor
  · intro all
    obtain ⟨root, -, leads⟩ := all _ scattered_edges.2.2 external_not_beside
      ⟨.ofString "/l", by decide, external_in_extra⟩
    have normal : (Path.ofString "/l/v/../d.proto").Normal :=
      Option.some.inj leads ▸ candidate_normal root "d.proto"
    exact absurd normal (by decide)
  · intro all
    rw [hidden_edges.1, List.forall_mem_singleton, hidden_firstRoot.1] at all
    exact absurd (all hidden_not_beside.1 ⟨hidingDir, by simp, hidden_not_beside.2⟩) (by simp)

theorem external_through_extra_root :
    ∃ root, (resolveScattered "/a" [importer.1]).firstRoot (FileSystem.isFile scatteredTree)
      "d.proto" = some root ∧ candidate root "d.proto" = .ofString "/l/d.proto" := by
  obtain ⟨root, p, first, target, -, exactly⟩ := firstRoot_of_direct _ _ rfl scattered_text importer_text rfl
    external_edge external_not_beside ⟨.ofString "/l", by decide, external_in_extra⟩
  obtain rfl := Option.some.inj target
  exact ⟨root, first, (exactly (by decide)).symm⟩

/-! ## Imports found by climbing -/

/-- Searching a list up to one of its members that holds. -/
theorem find?_takeWhile {holds : Path → Bool} {items : List Path} {dir : Path} (member : dir ∈ items)
    (held : holds dir) :
    items.find? holds = ((items.takeWhile (· != dir)).find? holds).or (some dir) := by
  have rest : (items.dropWhile (· != dir)).find? holds = some dir := by
    induction items with
    | nil => cases member
    | cons item items ih =>
        by_cases same : item = dir
        · subst same
          simp [held]
        · rw [List.dropWhile_cons_of_pos (by simpa using same)]
          exact ih ((List.mem_cons.mp member).resolve_left (Ne.symm same))
  conv_lhs => rw [← List.takeWhile_append_dropWhile (p := (· != dir)) (l := items)]
  rw [List.find?_append, rest]

/-- An absolute literal names one path under every directory. -/
theorem relative_of_holds {isFile : Path → Bool} {literal : String} {root near : Path}
    (missed : holds isFile literal root = false) (held : holds isFile literal near) :
    (Path.ofString literal).isAbsolute = false := by
  by_contra rooted
  have same : candidate root literal = candidate near literal := by
    simp only [Bool.not_eq_false] at rooted
    simp [candidate, Path.join, rooted]
  rw [holds, same] at missed
  exact absurd held (by simpa [holds] using missed)

/-- An ancestor root that holds a literal lies above the nearest ancestor that does. -/
theorem above_of_needed (absolute : r.base.isAbsolute) (detects : r.detectImports) {literal : String}
    {near far : Path} (first : r.space.ancestors.find? (holds (FileSystem.isFile fs) literal) = some near)
    (early : far ∈ (r.resolve fs discovered).graph.neededBefore near)
    (held : holds (FileSystem.isFile fs) literal far) : Path.Above far near := by
  have listed := List.takeWhile_subset _ early
  obtain ⟨d, edge, through⟩ :=
    (mem_ancestorRoots_resolve fs discovered absolute detects).mp listed
  rw [graph_resolve r fs discovered detects] at edge
  have climbed := List.mem_of_find?_eq_some (find?_of_ancestor edge through)
  exact rel_of_find? (pairwise_space_ancestors absolute) first climbed held
    (by simpa using List.mem_takeWhile_imp early)

/-- Where all paths are text, the emitted roots lead to what the nearest ancestor holds exactly when no ancestor root
    that was needed before holds the literal at another path. -/
theorem firstRoot_of_climbed (absolute : r.base.isAbsolute) (text : r.IsText) (texts : ∀ q ∈ discovered, q.IsText)
    (detects : r.detectImports) (normal : ∀ q ∈ discovered, q.Normal) {e : ImportEdge}
    (edge : e ∈ (r.resolve fs discovered).graph.edges)
    (missed : ∀ dir ∈ r.space.direct e.source, holds (FileSystem.isFile fs) e.literal dir = false)
    {p : Path} (target : e.target.path? = some p) :
    ∃ near root, r.space.ancestors.find? (holds (FileSystem.isFile fs) e.literal) = some near ∧
      candidate near e.literal = p ∧
      (r.resolve fs discovered).firstRoot (FileSystem.isFile fs) e.literal = some root ∧
      (candidate root e.literal = p ↔
        ∀ far ∈ (r.resolve fs discovered).graph.neededBefore near,
          holds (FileSystem.isFile fs) e.literal far → candidate far e.literal = p) := by
  obtain ⟨found, search, via, -, spelled⟩ := find?_of_resolved r fs discovered detects edge target
  have skipped : (r.space.direct e.source).find? (holds (FileSystem.isFile fs) e.literal) = none :=
    List.find?_eq_none.mpr fun dir member => by simp [missed dir member]
  rcases r.space.find?_cases (FileSystem.isFile fs) e.source e.literal with
    ⟨dir, first, -⟩ | ⟨-, near, first, eq⟩ | ⟨-, -, eq⟩
  · rw [skipped] at first
    cases first
  · obtain rfl := Option.some.inj (search.symm.trans eq)
    have near_text : near.IsText := text.space.primary.ancestors (List.mem_of_find?_eq_some first)
    obtain rfl := (spelled texts (isText_candidate near_text e.literal)).2 normal
    have held : holds (FileSystem.isFile fs) e.literal near := List.find?_some first
    have needed := (mem_ancestorRoots_resolve fs discovered absolute detects).mpr ⟨e, edge, via⟩
    have rootsMiss : (r.primaryRoot :: r.extraRoots).find?
        (holds (FileSystem.isFile fs) e.literal) = none :=
      List.find?_eq_none.mpr fun dir member => by
        simp [missed dir (List.mem_append_right _ member)]
    have searched := firstRoot_eq fs discovered absolute text detects e.literal
    rw [List.find?_append, rootsMiss, Option.none_or, find?_takeWhile needed held] at searched
    cases early : ((r.resolve fs discovered).graph.neededBefore near).find?
        (holds (FileSystem.isFile fs) e.literal) with
    | none =>
        rw [← neededBefore, early, Option.none_or] at searched
        refine ⟨near, near, first, rfl, searched, iff_of_true rfl fun far member heldFar => ?_⟩
        exact absurd heldFar (List.find?_eq_none.mp early far member)
    | some root =>
        rw [← neededBefore, early, Option.some_or] at searched
        have rootEarly := List.mem_of_find?_eq_some early
        have rootHeld : holds (FileSystem.isFile fs) e.literal root := List.find?_some early
        refine ⟨near, root, first, rfl, searched, fun same far member heldFar => ?_, fun all => ?_⟩
        · -- both roots lie above the nearest one, and a path that two of them share is shared by all
          have relative := relative_of_holds
            (missed r.primaryRoot (List.mem_append_right _ List.mem_cons_self)) held
          have rootAbove := above_of_needed fs discovered absolute detects first rootEarly rootHeld
          have farAbove := above_of_needed fs discovered absolute detects first member heldFar
          exact rootAbove.join_eq farAbove relative same.symm
        · exact all root rootEarly rootHeld
  · rw [search] at eq
    cases eq

theorem climbed_not_direct :
    ∀ literal ∈ ["x.proto", "y.proto"],
      ∀ dir ∈ importer.1.parent?.toList ++ [Path.ofString "/a/b", .ofString "/l"],
        holds (FileSystem.isFile scatteredTree) literal dir = false := by
  rw [scatteredTree, MemoryFiles.isFile_eq]
  decide

theorem hidden_not_direct :
    ∀ dir ∈ (Path.ofString "/\uFFFD/p/m.proto").parent?.toList ++ [Path.ofString "/\uFFFD/p", hiddenDir],
      holds (FileSystem.isFile hiddenTree) "d.proto" dir = false := by
  rw [hiddenTree, MemoryFiles.isFile_eq]
  decide

/-- An ancestor farther out that an earlier import needed hides the nearest one, and so does an extra root that looks
    like it. -/
theorem climbed_hidden :
    (¬ ∀ e ∈ (resolveScattered "/a" [importer.1]).graph.edges,
      (∀ dir ∈ e.source.parent?.toList ++ [Path.ofString "/a/b", .ofString "/l"],
        holds (FileSystem.isFile scatteredTree) e.literal dir = false) →
      ∀ p ∈ e.target.path?, ∃ root ∈ (resolveScattered "/a" [importer.1]).firstRoot
        (FileSystem.isFile scatteredTree) e.literal, candidate root e.literal = p) ∧
    ¬ ∀ e ∈ (resolveHidden "/\uFFFD/p" [hiddenDir]).graph.edges,
      (∀ dir ∈ e.source.parent?.toList ++ [Path.ofString "/\uFFFD/p", hiddenDir],
        holds (FileSystem.isFile hiddenTree) e.literal dir = false) →
      ∀ p ∈ e.target.path?,
        ((resolveHidden "/\uFFFD/p" [hiddenDir]).firstRoot (FileSystem.isFile hiddenTree) e.literal).isSome := by
  constructor
  · intro all
    have edge : ⟨importer.1, "y.proto", .external (.ofString "/a/y.proto"), some (.ofString "/a")⟩ ∈
        (resolveScattered "/a" [importer.1]).graph.edges := by
      rw [scattered_edges.1]
      exact List.mem_of_getElem? (i := 3) rfl
    obtain ⟨root, first, leads⟩ := all _ edge (climbed_not_direct "y.proto" (by simp)) _ rfl
    have outer : (resolveScattered "/a" [importer.1]).firstRoot (FileSystem.isFile scatteredTree)
        "y.proto" = some (.ofString "/") := by
      rw [SourceSet.firstRoot, scattered_roots, scatteredTree, MemoryFiles.isFile_eq]
      decide
    obtain rfl := Option.some.inj (outer.symm.trans first)
    exact absurd leads (by decide)
  · intro all
    rw [hidden_edges.2, List.forall_mem_singleton, hidden_firstRoot.2] at all
    exact absurd (all hidden_not_direct _ rfl) (by simp)

theorem climbed_first :
    ∃ root, (resolveScattered "/a" [importer.1]).firstRoot (FileSystem.isFile scatteredTree)
      "x.proto" = some root ∧ candidate root "x.proto" = .ofString "/x.proto" := by
  have edge : ⟨importer.1, "x.proto", .external (.ofString "/x.proto"), some (.ofString "/")⟩ ∈
      (resolveScattered "/a" [importer.1]).graph.edges := by
    rw [scattered_edges.1]
    exact List.mem_of_getElem? (i := 2) rfl
  have needed : (resolveScattered "/a" [importer.1]).graph.ancestorRoots =
      [.ofString "/", .ofString "/a"] := by
    rw [ancestorRoots, scattered_edges.1]
    decide
  obtain ⟨near, root, climbed, leadsNear, first, leads⟩ := firstRoot_of_climbed _ _ rfl scattered_text importer_text
    rfl (by decide) edge (climbed_not_direct "x.proto" (by simp)) rfl
  refine ⟨root, first, leads.mpr fun far early held => ?_⟩
  have listed : far ∈ (resolveScattered "/a" [importer.1]).graph.ancestorRoots :=
    List.takeWhile_subset _ early
  rw [needed] at listed
  rcases List.mem_cons.mp listed with rfl | nearer
  · rfl
  · obtain rfl := List.mem_singleton.mp nearer
    rw [scatteredTree, MemoryFiles.isFile_eq] at held
    exact absurd held (by decide)

end SourceSetRequest

end ProtoTree
