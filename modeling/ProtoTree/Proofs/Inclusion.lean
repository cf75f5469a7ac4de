import Mathlib.Data.List.Nodup
import Mathlib.Data.Set.Basic
import Mathlib.Logic.Relation
import ProtoTree.Proofs.ImportGraph.Loops
import ProtoTree.Proofs.SourceSet

/-! # Files that are left out

A file is left out when it has no service and another file imports it. That
importer may be left out too, so a file is lost when its importers, and theirs,
never lead back to a listed one: when it belongs to a ring. A ring holds a loop
of imports, and without loops nothing is lost and no fallback is needed.
-/

namespace ProtoTree

namespace ImportGraph

/-- A chain of one or more imports. -/
def PullsIn (g : ImportGraph) : Path → Path → Prop := Relation.TransGen g.Imports

/-- A file without a service that some other file imports. -/
def Spare (g : ImportGraph) (files : List SourceFile) (p : Path) : Prop :=
  (∃ file ∈ files, file.path = p ∧ file.hasService = false) ∧ ∃ q, q ≠ p ∧ g.Imports q p

/-- Spare files that are imported from nowhere but among themselves. -/
structure Ring (g : ImportGraph) (files : List SourceFile) (members : Set Path) : Prop where
  nonempty : members.Nonempty
  spare : ∀ p ∈ members, g.Spare files p
  closed : ∀ p ∈ members, ∀ q, g.Imports q p → q ∈ members

/-- No chain of imports enters a ring. -/
theorem Ring.mem_of_pullsIn {g : ImportGraph} {files : List SourceFile} {members : Set Path}
    (ring : g.Ring files members) {p q : Path} (chain : g.PullsIn q p) (inside : p ∈ members) :
    q ∈ members := by
  induction chain with
  | single edge => exact ring.closed _ inside _ edge
  | tail _ edge ih => exact ih (ring.closed _ inside _ edge)

end ImportGraph

namespace Inclusion

open ImportGraph

theorem keeps_iff {file : SourceFile} {inDegree : Nat} :
    keeps file inDegree ↔ inDegree = 0 ∨ file.hasService := by
  simp only [keeps, Bool.or_eq_true, Bool.and_eq_true, beq_iff_eq]
  constructor
  · rintro ((unused | service) | ⟨-, unused⟩)
    · exact .inl unused
    · exact .inr service
    · exact .inl unused
  · exact .inl

/-- The rule asks for the in-degree of every file, and all files are listed when it keeps none of some. -/
theorem ofGraph_eq (files : List SourceFile) (g : ImportGraph) :
    ofGraph files g =
      if ((files.filter fun f => keeps f (g.inDegree f.path)).map (·.path)).isEmpty && !files.isEmpty
      then ⟨files.map (·.path), [], true⟩
      else ⟨(files.filter fun f => keeps f (g.inDegree f.path)).map (·.path),
        (files.filter fun f => !keeps f (g.inDegree f.path)).map (·.path), false⟩ := rfl

/-- Either the rule keeps no file and all are listed, or what it keeps is listed and the rest is left out. -/
theorem ofGraph_cases (files : List SourceFile) (g : ImportGraph) :
    ((files ≠ [] ∧ ∀ file ∈ files, keeps file (g.inDegree file.path) = false) ∧
      ofGraph files g = ⟨files.map (·.path), [], true⟩) ∨
    ((files ≠ [] → ∃ file ∈ files, keeps file (g.inDegree file.path)) ∧
      ofGraph files g = ⟨(files.filter fun f => keeps f (g.inDegree f.path)).map (·.path),
        (files.filter fun f => !keeps f (g.inDegree f.path)).map (·.path), false⟩) := by
  rw [ofGraph_eq]
  split
  · next emptied =>
      simp only [Bool.and_eq_true, List.isEmpty_iff, List.map_eq_nil_iff, List.filter_eq_nil_iff,
        Bool.not_eq_true', List.isEmpty_eq_false_iff, Bool.not_eq_true] at emptied
      exact .inl ⟨⟨emptied.2, emptied.1⟩, rfl⟩
  · next kept =>
      refine .inr ⟨fun filled => ?_, rfl⟩
      simpa [filled] using kept

/-- One kept file is enough for the rule to stand. -/
theorem fallbackApplied_of_keeps {files : List SourceFile} {g : ImportGraph} {file : SourceFile}
    (member : file ∈ files) (kept : keeps file (g.inDegree file.path)) :
    (ofGraph files g).fallbackApplied = false := by
  rcases ofGraph_cases files g with ⟨⟨-, dropped⟩, -⟩ | ⟨-, eq⟩
  · rw [dropped file member] at kept
    cases kept
  · rw [eq]

section Build

variable {s : SearchSpace} {isFile : Path → Bool} {files : List SourceFile}
  (distinct : (files.map (·.path)).Nodup) (normal : ∀ p ∈ files.map (·.path), p.Normal)
include distinct normal

/-- The rule keeps a file unless it is spare. -/
theorem keeps_eq_false_iff {file : SourceFile} (member : file ∈ files) :
    keeps file ((build s isFile files).inDegree file.path) = false ↔
      (build s isFile files).Spare files file.path := by
  rw [Bool.eq_false_iff, Ne, keeps_iff, not_or, ← Ne, ← Nat.pos_iff_ne_zero, Bool.not_eq_true,
    inDegree_pos distinct normal (List.mem_map_of_mem member)]
  constructor
  · rintro ⟨imported, plain⟩
    exact ⟨⟨file, member, rfl, plain⟩, imported⟩
  · rintro ⟨⟨other, otherMember, same, plain⟩, imported⟩
    rw [List.inj_on_of_nodup_map distinct otherMember member same] at plain
    exact ⟨imported, plain⟩

/-- The spare files are left out, unless all files are spare. -/
theorem ofGraph_spare :
    ((files ≠ [] ∧ ∀ p ∈ files.map (·.path), (build s isFile files).Spare files p) ∧
      (ofGraph files (build s isFile files)).omitted = []) ∨
    ((files ≠ [] → ∃ p ∈ files.map (·.path), ¬ (build s isFile files).Spare files p) ∧
      (∀ p, p ∈ (ofGraph files (build s isFile files)).compile ↔
        p ∈ files.map (·.path) ∧ ¬ (build s isFile files).Spare files p) ∧
      ∀ p, p ∈ (ofGraph files (build s isFile files)).omitted ↔
        (build s isFile files).Spare files p) := by
  have rule {file : SourceFile} (member : file ∈ files) :=
    @keeps_eq_false_iff s isFile files distinct normal file member
  rcases ofGraph_cases files (build s isFile files) with ⟨⟨filled, dropped⟩, eq⟩ | ⟨kept, eq⟩
  · refine .inl ⟨⟨filled, fun p given => ?_⟩, by rw [eq]⟩
    obtain ⟨file, member, rfl⟩ := List.mem_map.mp given
    exact (rule member).mp (dropped file member)
  · rw [eq]
    refine .inr ⟨fun filled => ?_, fun p => ?_, fun p => ?_⟩
    · obtain ⟨file, member, keeps⟩ := kept filled
      refine ⟨file.path, List.mem_map_of_mem member, fun spare => ?_⟩
      rw [(rule member).mpr spare] at keeps
      cases keeps
    · simp only [List.mem_map, List.mem_filter]
      constructor
      · rintro ⟨file, ⟨member, kept⟩, rfl⟩
        refine ⟨⟨file, member, rfl⟩, fun spare => ?_⟩
        rw [(rule member).mpr spare] at kept
        cases kept
      · rintro ⟨⟨file, member, rfl⟩, used⟩
        exact ⟨file, ⟨member, by simpa using mt (rule member).mp used⟩, rfl⟩
    · simp only [List.mem_map, List.mem_filter, Bool.not_eq_true']
      constructor
      · rintro ⟨file, ⟨member, dropped⟩, rfl⟩
        exact (rule member).mp dropped
      · intro spare
        obtain ⟨file, member, rfl, -⟩ := spare.1
        exact ⟨file, ⟨member, (rule member).mpr spare⟩, rfl⟩

/-- Listed files pull in all that are left out exactly when there is no ring, or when all files are one. -/
theorem pullsIn_omitted_iff :
    (∀ p ∈ (ofGraph files (build s isFile files)).omitted,
      ∃ q ∈ (ofGraph files (build s isFile files)).compile, (build s isFile files).PullsIn q p) ↔
    (build s isFile files).Ring files {p | p ∈ files.map (·.path)} ∨
      ∀ members, ¬ (build s isFile files).Ring files members := by
  rcases @ofGraph_spare s isFile files distinct normal with
    ⟨⟨filled, all⟩, omitted⟩ | ⟨used, listed, omitted⟩
  · refine iff_of_true (by simp [omitted]) (.inl ⟨?_, all, fun p _ q edge => edge.given.1⟩)
    obtain ⟨file, member⟩ := List.exists_mem_of_ne_nil files filled
    exact ⟨file.path, List.mem_map_of_mem member⟩
  · constructor
    · refine fun reached => .inr fun members ring => ?_
      obtain ⟨p, inside⟩ := ring.nonempty
      obtain ⟨q, kept, chain⟩ := reached p ((omitted p).mpr (ring.spare p inside))
      exact ((listed q).mp kept).2 (ring.spare q (ring.mem_of_pullsIn chain inside))
    · rintro (whole | absent) p left
      · obtain ⟨other, given⟩ := whole.nonempty
        obtain ⟨file, member, -⟩ := List.mem_map.mp given
        obtain ⟨kept, given, needed⟩ := used (List.ne_nil_of_mem member)
        exact absurd (whole.spare kept given) needed
      · by_contra lost
        -- the spare files that no listed file pulls in are a ring
        refine absent {x | (build s isFile files).Spare files x ∧
          ∀ q ∈ (ofGraph files (build s isFile files)).compile,
            ¬ (build s isFile files).PullsIn q x} ⟨⟨p, (omitted p).mp left, ?_⟩, fun x => And.left, ?_⟩
        · exact fun q kept chain => lost ⟨q, kept, chain⟩
        · rintro x ⟨-, unreached⟩ q edge
          refine ⟨?_, fun root kept chain => unreached root kept (chain.tail edge)⟩
          by_contra needed
          exact unreached q ((listed q).mpr ⟨edge.given.1, needed⟩) (.single edge)

/-- All files are listed for want of kept ones exactly when all are spare. -/
theorem fallbackApplied_iff :
    (ofGraph files (build s isFile files)).fallbackApplied ↔
      files ≠ [] ∧ ∀ p ∈ files.map (·.path), (build s isFile files).Spare files p := by
  rcases ofGraph_cases files (build s isFile files) with ⟨⟨filled, dropped⟩, eq⟩ | ⟨kept, eq⟩
  · refine iff_of_true (by rw [eq]) ⟨filled, fun p given => ?_⟩
    obtain ⟨file, member, rfl⟩ := List.mem_map.mp given
    exact (keeps_eq_false_iff distinct normal member).mp (dropped file member)
  · refine iff_of_false (by simp [eq]) fun ⟨filled, spare⟩ => ?_
    obtain ⟨file, member, keeps⟩ := kept filled
    rw [(keeps_eq_false_iff distinct normal member).mpr
      (spare file.path (List.mem_map_of_mem member))] at keeps
    cases keeps

/-- When every file is listed because the rule keeps none, some files without services form a loop. -/
theorem exists_loop_of_fallback (fell : (ofGraph files (build s isFile files)).fallbackApplied) :
    ∃ loop, (build s isFile files).Loop loop ∧
      ∀ p ∈ loop, ∃ file ∈ files, file.path = p ∧ file.hasService = false := by
  obtain ⟨filled, spare⟩ := (fallbackApplied_iff distinct normal).mp fell
  obtain ⟨file, member⟩ := List.exists_mem_of_ne_nil files filled
  obtain ⟨loop, circle, given⟩ := exists_loop (List.finite_toSet (files.map (·.path)))
    ⟨file.path, List.mem_map_of_mem member⟩ fun p given => by
      obtain ⟨-, q, other, edge⟩ := spare p given
      exact ⟨q, edge.given.1, other, edge⟩
  exact ⟨loop, circle, fun p onLoop => (spare p (given p onLoop)).1⟩

/-- Without loops, walking back along imports ends at a file that no other one imports. -/
theorem exists_unimported (straight : ∀ loop, ¬ (build s isFile files).Loop loop) {p : Path}
    (given : p ∈ files.map (·.path)) :
    ∃ q ∈ files.map (·.path), (build s isFile files).inDegree q = 0 ∧
      Relation.ReflTransGen (build s isFile files).ImportsOther q p := by
  by_contra none
  push Not at none
  have known {q : Path} (chain : Relation.ReflTransGen (build s isFile files).ImportsOther q p) :
      q ∈ files.map (·.path) := by
    rcases Relation.ReflTransGen.cases_head chain with rfl | ⟨next, ⟨-, edge⟩, -⟩
    · exact given
    · exact edge.given.1
  obtain ⟨loop, circle, -⟩ := @exists_loop (build s isFile files)
    {q | Relation.ReflTransGen (build s isFile files).ImportsOther q p}
    ((List.finite_toSet (files.map SourceFile.path)).subset fun q chain => known chain) ⟨p, .refl⟩
    fun q chain => by
      have positive := Nat.pos_of_ne_zero fun unused => none q (known chain) unused chain
      obtain ⟨r, other, edge⟩ := (inDegree_pos distinct normal (known chain)).mp positive
      exact ⟨r, chain.head ⟨other, edge⟩, other, edge⟩
  exact straight loop circle

/-- Only loops lead to the fallback, and only loops keep a chain of imports from leading to a file that is left out. -/
theorem loops_behind_losses :
    ((∀ loop, ¬ (build s isFile files).Loop loop) →
      (ofGraph files (build s isFile files)).fallbackApplied = false ∧
      ∀ p ∈ (ofGraph files (build s isFile files)).omitted,
        ∃ q ∈ (ofGraph files (build s isFile files)).compile, (build s isFile files).inDegree q = 0 ∧
          Relation.TransGen (build s isFile files).ImportsOther q p) ∧
    ((ofGraph files (build s isFile files)).fallbackApplied →
      ∃ loop, (build s isFile files).Loop loop ∧
        ∀ p ∈ loop, ∃ file ∈ files, file.path = p ∧ file.hasService = false) := by
  refine ⟨fun straight => ⟨?_, fun p left => ?_⟩, exists_loop_of_fallback distinct normal⟩
  · by_contra fell
    obtain ⟨loop, circle, -⟩ := exists_loop_of_fallback distinct normal (by simpa using fell)
    exact straight loop circle
  · rcases @ofGraph_spare s isFile files distinct normal with ⟨-, nothing⟩ | ⟨-, listed, omitted⟩
    · rw [nothing] at left
      cases left
    · obtain ⟨-, importer, other, edge⟩ := (omitted p).mp left
      obtain ⟨q, given, unused, chain⟩ := exists_unimported distinct normal straight edge.given.2
      have idle : ¬ ∃ r, r ≠ q ∧ (build s isFile files).Imports r q := by
        rw [← inDegree_pos distinct normal given, unused]
        exact Nat.lt_irrefl 0
      rcases Relation.reflTransGen_iff_eq_or_transGen.mp chain with rfl | chain
      · exact absurd ⟨importer, other, edge⟩ idle
      · exact ⟨q, (listed q).mpr ⟨given, fun spare => idle spare.2⟩, unused, chain⟩

end Build

/-- A file below `/w` that imports others. -/
def importing (name : String) (imports : List String) : SourceFile :=
  { path := .ofString ("/w/" ++ name), declarations := { imports } }

/-- The graph of some files when there are no others. -/
def graphOf (files : List SourceFile) : ImportGraph :=
  build ⟨.ofString "/w", [], 8⟩ (fun p => p ∈ files.map (·.path)) files

/-- The last of three files is imported by the second one and by itself, and imports a file that does not exist. -/
def inLine : List SourceFile :=
  [importing "a.proto" ["b.proto"], importing "b.proto" ["c.proto", "./c.proto"],
    importing "c.proto" ["c.proto", "d.proto"]]

/-- Three files, each of which imports the next one. -/
def inCircle : List SourceFile :=
  [importing "a.proto" ["b.proto"], importing "b.proto" ["c.proto"], importing "c.proto" ["a.proto"]]

/-- An edge of such a graph to a given file. -/
def between (name literal target : String) : ImportEdge :=
  ⟨.ofString ("/w/" ++ name), literal, .discovered (.ofString ("/w/" ++ target)), none⟩

theorem edges_inLine_inCircle :
    (graphOf inLine).edges =
        [between "a.proto" "b.proto" "b.proto", between "b.proto" "c.proto" "c.proto",
          between "b.proto" "./c.proto" "c.proto", between "c.proto" "c.proto" "c.proto",
          ⟨.ofString "/w/c.proto", "d.proto", .unresolved, none⟩] ∧
      (graphOf inCircle).edges =
        [between "a.proto" "b.proto" "b.proto", between "b.proto" "c.proto" "c.proto",
          between "c.proto" "a.proto" "a.proto"] := by
  rw [graphOf, graphOf, build_eq, build_eq]
  decide +kernel

theorem straight_inLine (loop : Cycle Path) : ¬ (graphOf inLine).Loop loop := by
  have before : ∀ e ∈ (graphOf inLine).edges, ∀ p ∈ e.target.path?, e.source ≠ p →
      (inLine.map (·.path)).idxOf e.source < (inLine.map (·.path)).idxOf p := by
    rw [edges_inLine_inCircle.1]
    decide
  refine @not_loop_of_rank _ (inLine.map (·.path)).idxOf ?_ loop
  rintro q p ⟨other, e, edge, rfl, leads⟩
  exact before e edge p (by rw [leads]; rfl) other

theorem fell_inCircle : (ofGraph inCircle (graphOf inCircle)).fallbackApplied := by
  refine (fallbackApplied_iff (by decide) (by decide)).mpr ⟨by decide, fun p given => ?_⟩
  have spare : ∀ p ∈ inCircle.map (·.path), (∃ file ∈ inCircle, file.path = p ∧ file.hasService = false) ∧
      ∃ q ∈ inCircle.map (·.path), q ≠ p ∧ (graphOf inCircle).Imports q p := by
    simp only [Imports]
    rw [edges_inLine_inCircle.2]
    decide
  obtain ⟨plain, q, -, other, edge⟩ := spare p given
  exact ⟨plain, q, other, edge⟩

theorem left_inLine : .ofString "/w/c.proto" ∈ (ofGraph inLine (graphOf inLine)).omitted := by
  have spare : (graphOf inLine).Spare inLine (.ofString "/w/c.proto") := by
    refine ⟨by decide, .ofString "/w/b.proto", by decide, ?_⟩
    rw [Imports, edges_inLine_inCircle.1]
    decide
  have needed : ∀ q ∈ inLine.map (·.path), ¬ (graphOf inLine).ImportsOther q (.ofString "/w/a.proto") := by
    simp only [ImportsOther, Imports]
    rw [edges_inLine_inCircle.1]
    decide
  rcases @ofGraph_spare _ _ inLine (by decide) (by decide) with ⟨⟨-, all⟩, -⟩ | ⟨-, -, omitted⟩
  · obtain ⟨-, q, other, edge⟩ := all (.ofString "/w/a.proto") (by decide)
    exact absurd ⟨other, edge⟩ (needed q edge.given.1)
  · exact (omitted _).mpr spare

theorem loops_behind_losses_inLine_inCircle :
    ((ofGraph inLine (graphOf inLine)).fallbackApplied = false ∧
      ∃ q ∈ (ofGraph inLine (graphOf inLine)).compile, (graphOf inLine).inDegree q = 0 ∧
        Relation.TransGen (graphOf inLine).ImportsOther q (.ofString "/w/c.proto")) ∧
    ∃ loop, (graphOf inCircle).Loop loop ∧
      ∀ p ∈ loop, ∃ file ∈ inCircle, file.path = p ∧ file.hasService = false := by
  have line := (@loops_behind_losses _ _ inLine (by decide) (by decide)).1 straight_inLine
  have circle := (@loops_behind_losses _ _ inCircle (by decide) (by decide)).2 fell_inCircle
  exact ⟨⟨line.1, line.2 _ left_inLine⟩, circle⟩

end Inclusion

namespace SourceSetRequest

variable {σ : Type} [FileSystem σ] {r : SourceSetRequest} (fs : σ) {discovered : List Path}

/-- No file that is left out is lost exactly when there is no ring, or when all files are one and so are listed. -/
theorem omitted_pulled_in_iff (detects : r.detectImports) (distinct : discovered.Nodup)
    (normal : ∀ p ∈ discovered, p.Normal) :
    (∀ p ∈ (r.resolve fs discovered).inclusion.omitted,
      ∃ q ∈ (r.resolve fs discovered).inclusion.compile,
        (r.resolve fs discovered).graph.PullsIn q p) ↔
    (r.resolve fs discovered).graph.Ring (r.resolve fs discovered).files {p | p ∈ discovered} ∨
      ∀ members, ¬ (r.resolve fs discovered).graph.Ring (r.resolve fs discovered).files members := by
  have paths := paths_scan fs discovered
  have law := @Inclusion.pullsIn_omitted_iff r.space (FileSystem.isFile fs) _
    (paths.symm ▸ distinct) (paths.symm ▸ normal)
  rw [paths] at law
  rw [inclusion_resolve r fs discovered detects, graph_resolve r fs discovered detects,
    files_resolve r fs discovered detects]
  exact law

/-- Two files that import one another, beside a file of its own. -/
def ringFiles : List (Path × Text.Bytes) :=
  [MemoryFiles.textFile "/w/a.proto" "import 'b.proto';", MemoryFiles.textFile "/w/b.proto" "import 'a.proto';",
    MemoryFiles.textFile "/w/c.proto" ""]

def resolveRing : SourceSet :=
  resolve { base := .ofString "/w", primary := .ofString "/w" }
    (MemoryFiles.ofFiles (.ofString "/") ringFiles) (ringFiles.map (·.1))

theorem ring_scanned :
    (ringFiles.map (·.1)).map (scanned (.ofString "/") ringFiles) =
      [⟨.ofString "/w/a.proto", ⟨["b.proto"], false, false⟩, none⟩,
        ⟨.ofString "/w/b.proto", ⟨["a.proto"], false, false⟩, none⟩, ⟨.ofString "/w/c.proto", {}, none⟩] := by
  decide +kernel

theorem ring_edges :
    resolveRing.graph.edges =
      [⟨.ofString "/w/a.proto", "b.proto", .discovered (.ofString "/w/b.proto"), none⟩,
        ⟨.ofString "/w/b.proto", "a.proto", .discovered (.ofString "/w/a.proto"), none⟩] := by
  rw [resolveRing, resolve_ofFiles rfl (by decide), ring_scanned]
  decide +kernel

/-- The file of its own is listed, and it does not pull in the other two. -/
theorem omitted_lost_in_ring :
    ¬ ∀ p ∈ resolveRing.inclusion.omitted,
      ∃ q ∈ resolveRing.inclusion.compile, resolveRing.graph.PullsIn q p := by
  have members : ∀ p ∈ [Path.ofString "/w/a.proto", .ofString "/w/b.proto"],
      (∃ file ∈ resolveRing.files, file.path = p ∧ file.hasService = false) ∧
        ∃ q ∈ ringFiles.map (·.1), q ≠ p ∧ resolveRing.graph.Imports q p := by
    simp only [ImportGraph.Imports]
    rw [ring_edges, resolveRing, resolve_ofFiles rfl (by decide), resolveIn, ring_scanned]
    decide
  have edges : ∀ e ∈ resolveRing.graph.edges,
      e.source ∈ [Path.ofString "/w/a.proto", .ofString "/w/b.proto"] ∧
        e.target ≠ .discovered (.ofString "/w/c.proto") := by
    rw [ring_edges]
    decide
  intro reached
  rcases (omitted_pulled_in_iff _ rfl (by decide) (by decide)).mp reached with whole | absent
  · obtain ⟨-, q, -, e, edge, -, leads⟩ := whole.spare (.ofString "/w/c.proto") (by decide)
    exact (edges e edge).2 leads
  · refine absent {p | p ∈ [Path.ofString "/w/a.proto", .ofString "/w/b.proto"]}
      ⟨⟨_, List.mem_cons_self⟩, fun p inside => ?_, ?_⟩
    · obtain ⟨plain, q, -, other, imported⟩ := members p inside
      exact ⟨plain, q, other, imported⟩
    · rintro p - q ⟨e, edge, rfl, -⟩
      exact (edges e edge).1

end SourceSetRequest

end ProtoTree
