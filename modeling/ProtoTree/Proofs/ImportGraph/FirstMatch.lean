import Mathlib.Data.List.Nodup
import ProtoTree.Proofs.ImportGraph.Edges
import ProtoTree.Proofs.Path.Repaired

/-! # First matches

Every declared import has one edge. The edge leads to the file at the literal
under the first directory that has one there, and tells whether that is one of
the given files. An import that no directory has a file for leads nowhere, and
these imports are the unresolved ones.
-/

namespace ProtoTree

namespace SearchSpace

/-- The directories in which the literals of a file are looked up: its own one, the primary root, the extra roots,
    and those above the primary root up to the limit. -/
def lookupDirs (s : SearchSpace) (file : Path) : List Path :=
  file.parent?.toList ++ s.primary :: s.extra ++ s.primary.upward s.maxAscent

/-- The first of some directories that has a file at a literal has it at a path. -/
def FirstMatch (isFile : Path → Bool) (dirs : List Path) (literal : String) (p : Path) : Prop :=
  ∃ before dir after, dirs = before ++ dir :: after ∧ candidate dir literal = p ∧ isFile p ∧
    ∀ other ∈ before, ¬ isFile (candidate other literal)

variable {s : SearchSpace} {isFile : Path → Bool} {dirs : List Path} {literal : String} {p : Path}

/-- The roots of the search are text. -/
structure IsText (s : SearchSpace) : Prop where
  primary : s.primary.IsText
  extra : ∀ dir ∈ s.extra, dir.IsText

theorem isText_candidate {dir : Path} (text : dir.IsText) (literal : String) : (candidate dir literal).IsText :=
  (text.join (Path.isText_ofString literal)).normalize

/-- A literal leads to one text from directories with one key. -/
theorem text_candidate {dir other : Path} (first : dir.Normal) (second : other.Normal) (same : dir.key = other.key)
    (literal : String) : (candidate dir literal).text = (candidate other literal).text := by
  have alike := (first.key_eq_iff second).mp same
  rw [← Path.repaired_eq_iff, candidate, candidate, ← Path.normalize_repaired, ← Path.normalize_repaired,
    Path.join_repaired, Path.join_repaired, alike]

/-- The literals of a file that is text are tried at paths that are text. -/
theorem IsText.candidates {file : Path} (text : s.IsText) (given : file.IsText)
    (member : p ∈ s.candidates file literal) : p.IsText := by
  obtain ⟨dir, tried, rfl⟩ := List.mem_map.mp member
  refine isText_candidate ?_ literal
  rcases List.mem_append.mp tried with direct | above
  · rcases List.mem_append.mp direct with beside | root
    · exact given.parent? (Option.mem_toList.mp beside)
    · rcases List.mem_cons.mp root with rfl | extra
      · exact text.primary
      · exact text.extra dir extra
  · exact text.primary.ancestors above

theorem lookupDirs_eq (normal : s.primary.Normal) (absolute : s.primary.isAbsolute) (file : Path) :
    s.lookupDirs file = s.direct file ++ s.ancestors := by
  rw [lookupDirs, direct, ancestors, normal.ancestors_eq_upward absolute]

theorem firstMatch_iff :
    FirstMatch isFile dirs literal p ↔
      (dirs.find? (holds isFile literal)).map (candidate · literal) = some p := by
  simp only [Option.map_eq_some_iff, List.find?_eq_some_iff_append]
  constructor
  · rintro ⟨before, dir, after, rfl, rfl, file, earlier⟩
    refine ⟨dir, ⟨file, before, after, rfl, fun other member => ?_⟩, rfl⟩
    simpa [holds] using earlier other member
  · rintro ⟨dir, ⟨file, before, after, rfl, earlier⟩, rfl⟩
    refine ⟨before, dir, after, rfl, rfl, file, fun other member => ?_⟩
    simpa [holds] using earlier other member

theorem FirstMatch.normal (first : FirstMatch isFile dirs literal p) : p.Normal := by
  obtain ⟨-, dir, -, -, rfl, -, -⟩ := first
  exact candidate_normal dir literal

end SearchSpace

namespace ImportGraph

open SearchSpace

/-- The edge leads where its literal does: to the given file with the key of the first match, to the first match when
    no given file has its key, or nowhere. Among paths that are text, the given file is the first match itself. -/
structure Follows (s : SearchSpace) (isFile : Path → Bool) (files : List SourceFile) (e : ImportEdge) :
    Prop where
  discovered : ∀ q, e.target = .discovered q ↔
    ∃ p, FirstMatch isFile (s.lookupDirs e.source) e.literal p ∧ q ∈ files.map (·.path) ∧ q.key = p.key
  external : ∀ p, e.target = .external p ↔
    FirstMatch isFile (s.lookupDirs e.source) e.literal p ∧ ∀ q ∈ files.map (·.path), q.key ≠ p.key
  unresolved : e.target = .unresolved ↔
    ∀ dir ∈ s.lookupDirs e.source, ¬ isFile (candidate dir e.literal)
  ofText : (∀ q ∈ files.map (·.path), q.IsText) →
    ∀ p, p.IsText → FirstMatch isFile (s.lookupDirs e.source) e.literal p →
      e.target = if p ∈ files.map (·.path) then .discovered p else .external p

section Build

variable {s : SearchSpace} {isFile : Path → Bool} {files : List SourceFile}

/-- Of files with different keys, no two have one key. -/
theorem path_eq_of_key (distinct : (files.map (·.path.key)).Nodup) {p q : Path} (first : p ∈ files.map (·.path))
    (second : q ∈ files.map (·.path)) (same : p.key = q.key) : p = q := by
  obtain ⟨file, member, rfl⟩ := List.mem_map.mp first
  obtain ⟨other, otherMember, rfl⟩ := List.mem_map.mp second
  rw [List.inj_on_of_nodup_map distinct member otherMember same]

theorem discovered_targetIn (distinct : (files.map (·.path.key)).Nodup) {found q : Path} :
    (targetIn files found).2 = .discovered q ↔ q ∈ files.map (·.path) ∧ q.key = found.key := by
  rcases targetIn_cases files found with ⟨apart, eq⟩ | ⟨i, file, at_i, same, eq⟩
  · rw [eq]
    refine iff_of_false (by simp) ?_
    rintro ⟨given, same⟩
    obtain ⟨file, member, rfl⟩ := List.mem_map.mp given
    exact apart file member same
  · have given : file.path ∈ files.map (·.path) := List.mem_map_of_mem (List.mem_of_getElem? at_i)
    rw [eq, ImportTarget.discovered.injEq]
    constructor
    · rintro rfl
      exact ⟨given, same⟩
    · rintro ⟨other, equal⟩
      exact path_eq_of_key distinct given other (same.trans equal.symm)

theorem external_targetIn {found q : Path} :
    (targetIn files found).2 = .external q ↔ q = found ∧ ∀ p ∈ files.map (·.path), p.key ≠ found.key := by
  rw [List.forall_mem_map]
  rcases targetIn_cases files found with ⟨apart, eq⟩ | ⟨i, file, at_i, same, eq⟩
  · rw [eq, ImportTarget.external.injEq, eq_comm]
    exact ⟨fun same => ⟨same, apart⟩, And.left⟩
  · rw [eq]
    exact iff_of_false (by simp) fun outside => outside.2 file (List.mem_of_getElem? at_i) same

theorem targetIn_ne_unresolved (files : List SourceFile) (found : Path) : (targetIn files found).2 ≠ .unresolved := by
  rcases targetIn_cases files found with ⟨-, eq⟩ | ⟨i, file, -, -, eq⟩
  · simp [eq]
  · simp [eq]

/-- The edge of any literal follows it. -/
theorem follows_edgeIn (primary : s.primary.Normal) (absolute : s.primary.isAbsolute)
    (distinct : (files.map (·.path.key)).Nodup) (normal : ∀ file ∈ files, file.path.Normal) (pair : Path × String) :
    Follows s isFile files (edgeIn s isFile files pair) := by
  have target := target_edgeIn_candidates s isFile files pair
  have search := s.map_path_find? isFile pair.1 pair.2
  have missed := s.isNone_find? isFile pair.1 pair.2
  rw [find?_candidates] at target
  rw [← lookupDirs_eq primary absolute] at search missed
  rw [← Option.isNone_map (f := (·.path))] at missed
  generalize (s.find? isFile pair.1 pair.2).map (·.path) = hit at search missed target
  have first (p : Path) : FirstMatch isFile (s.lookupDirs pair.1) pair.2 p ↔ hit = some p := by
    rw [firstMatch_iff, search]
  have nowhere : hit = none ↔ ∀ dir ∈ s.lookupDirs pair.1, ¬ isFile (candidate dir pair.2) := by
    rw [← Option.isNone_iff_eq_none, missed]
    simp [holds]
  constructor
  case discovered =>
    intro q
    simp only [source_edgeIn, literal_edgeIn, first, target]
    cases hit with
    | none => simp
    | some found => simpa using discovered_targetIn distinct
  case external =>
    intro p
    simp only [source_edgeIn, literal_edgeIn, first, target]
    cases hit with
    | none => simp
    | some found =>
        rw [Option.elim_some, external_targetIn, Option.some_inj, eq_comm]
        exact and_congr_right fun same => by rw [same]
  case unresolved =>
    rw [source_edgeIn, literal_edgeIn, ← nowhere, target]
    cases hit with
    | none => simp
    | some found => simpa using targetIn_ne_unresolved files found
  case ofText =>
    intro given p text leads
    have settled := leads.normal
    rw [source_edgeIn, literal_edgeIn, first] at leads
    have same (q : Path) (member : q ∈ files.map (·.path)) : q.key = p.key ↔ q = p := by
      obtain ⟨file, listed, rfl⟩ := List.mem_map.mp member
      rw [(given _ member).key_eq_iff text, (normal file listed).normalize_eq_self, settled.normalize_eq_self]
    rw [target, leads, Option.elim_some]
    split
    · next inside => exact (discovered_targetIn distinct).mpr ⟨inside, rfl⟩
    · next outside =>
        refine external_targetIn.mpr ⟨rfl, fun q member equal => outside ?_⟩
        exact (same q member).mp equal ▸ member

/-- There is one edge for each file and literal, it follows its literal, and the imports that no directory has a
    file for are reported in the order of their edges. -/
theorem build_firstMatch (primary : s.primary.Normal) (absolute : s.primary.isAbsolute)
    (distinct : (files.map (·.path.key)).Nodup) (normal : ∀ file ∈ files, file.path.Normal) :
    ((build s isFile files).edges.map fun e => (e.source, e.literal)) = declared files ∧
      (∀ e ∈ (build s isFile files).edges, Follows s isFile files e) ∧
      ((build s isFile files).unresolved.map fun e => (e.source, e.literal)) =
        (declared files).filter fun pair =>
          (s.lookupDirs pair.1).all fun dir => !isFile (candidate dir pair.2) := by
  refine ⟨?_, ?_, ?_⟩
  · rw [edges_build, List.map_map]
    refine (List.map_congr_left fun pair _ => ?_).trans (List.map_id _)
    simp
  · intro e edge
    rw [edges_build] at edge
    obtain ⟨pair, -, rfl⟩ := List.mem_map.mp edge
    exact follows_edgeIn primary absolute distinct normal pair
  · rw [unresolved_build]
    refine List.filter_congr fun pair _ => ?_
    rw [isNone_find?, lookupDirs_eq primary absolute]
    rfl

end Build

/-! ## A file that looks like the first match -/

/-- A file in a directory whose name is no text, and another one in a directory whose name is what that name is read
    as. -/
def lookalikes : List SourceFile :=
  [⟨.withByte "/w/" 0xFF "/a.proto", { imports := ["s/b.proto"] }, none⟩,
    ⟨.ofString "/w/\uFFFD/s/b.proto", {}, none⟩]

def isLookalike (p : Path) : Bool :=
  p ∈ .withByte "/w/" 0xFF "/s/b.proto" :: lookalikes.map (·.path)

theorem edges_lookalikes :
    (build ⟨.ofString "/w", [], 8⟩ isLookalike lookalikes).edges =
      [⟨.withByte "/w/" 0xFF "/a.proto", "s/b.proto", .discovered (.ofString "/w/\uFFFD/s/b.proto"), none⟩] := by
  rw [build_eq]
  decide +kernel

/-- The import is found beside its importer, at a path that is not given, and leads to the given file all the same. -/
theorem discovered_lookalike :
    (lookalikes.map (·.path.key)).Nodup ∧ (∀ file ∈ lookalikes, file.path.Normal) ∧
      (build ⟨.ofString "/w", [], 8⟩ isLookalike lookalikes).edges =
        [⟨.withByte "/w/" 0xFF "/a.proto", "s/b.proto", .discovered (.ofString "/w/\uFFFD/s/b.proto"), none⟩] ∧
      FirstMatch isLookalike (SearchSpace.lookupDirs ⟨.ofString "/w", [], 8⟩ (.withByte "/w/" 0xFF "/a.proto"))
        "s/b.proto" (.withByte "/w/" 0xFF "/s/b.proto") ∧
      .withByte "/w/" 0xFF "/s/b.proto" ∉ lookalikes.map (·.path) := by
  refine ⟨by decide +kernel, by decide, edges_lookalikes, ?_, by decide⟩
  rw [firstMatch_iff]
  decide

/-! ## Imports of every kind -/

/-- Imports from every kind of directory, one of them twice, one beyond the limit and one from nowhere. -/
def scatteredImports : List SourceFile :=
  [⟨.ofString "/w/p/s/a.proto",
      { imports := ["b.proto", "s/b.proto", "e.proto", "up.proto", "b.proto", "far.proto", "none.proto"] }, none⟩,
    ⟨.ofString "/w/p/s/b.proto", { imports := ["/w/p/s/../s/a.proto"] }, none⟩]

def scatteredSpace : SearchSpace := ⟨.ofString "/w/p", [.ofString "/x", .ofString "/y"], 1⟩

def isScattered (p : Path) : Bool :=
  p ∈ (["/w/p/s/a.proto", "/w/p/s/b.proto", "/x/e.proto", "/y/e.proto", "/w/up.proto", "/up.proto",
    "/far.proto"].map Path.ofString)

theorem scattered_text : ∀ p ∈ scatteredImports.map (·.path), p.IsText := by
  simp [scatteredImports, Path.isText_ofString]

theorem scattered_keys : (scatteredImports.map (·.path.key)).Nodup := by
  have keys := Path.IsText.nodup_map_key (by decide) (by decide) scattered_text
  rwa [List.map_map] at keys

/-- The file above the primary root is found at its nearest place, and what lies beyond the limit is not found. -/
theorem build_firstMatch_scattered :
    (build scatteredSpace isScattered scatteredImports).edges.length = 7 ∧
      (∀ e ∈ (build scatteredSpace isScattered scatteredImports).edges,
        e.literal = "up.proto" → e.target = .external (.ofString "/w/up.proto")) ∧
      (build scatteredSpace isScattered scatteredImports).unresolved.map (fun e => (e.source, e.literal)) =
        [(.ofString "/w/p/s/a.proto", "far.proto"), (.ofString "/w/p/s/a.proto", "none.proto")] := by
  obtain ⟨edges, follow, lost⟩ :=
    @build_firstMatch scatteredSpace isScattered scatteredImports (by decide) rfl scattered_keys (by decide)
  refine ⟨?_, fun e edge up => ?_, lost.trans (by decide)⟩
  · have count := congrArg List.length edges
    rwa [List.length_map] at count
  · have given : (e.source, e.literal) ∈ declared scatteredImports := edges ▸ List.mem_map_of_mem edge
    have only : ∀ pair ∈ declared scatteredImports, pair.2 = "up.proto" →
        pair.1 = .ofString "/w/p/s/a.proto" := by decide
    have source : e.source = .ofString "/w/p/s/a.proto" := only _ given up
    have leads : FirstMatch isScattered (scatteredSpace.lookupDirs e.source) e.literal (.ofString "/w/up.proto") := by
      rw [source, up, firstMatch_iff]
      decide
    rw [(follow e edge).ofText scattered_text _ (Path.isText_ofString _) leads, if_neg (by decide)]

end ImportGraph

end ProtoTree
