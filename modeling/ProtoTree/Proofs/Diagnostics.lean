import ProtoTree.Proofs.Coverage
import ProtoTree.Proofs.RootSearch
import ProtoTree.Proofs.Run

/-! # Diagnostics of a plan

A plan notes every file that could not be read, every import that no searched
directory holds, the fallback, and every listed file outside the primary root,
in this order and nothing else. An import of a file that was read is either held
by a searched directory or noted as often as its file was found.
-/

namespace ProtoTree

/-- The notes on imports that lead nowhere, file by file. -/
theorem ImportGraph.unresolvedImports_build (s : SearchSpace) (isFile : Path → Bool)
    (files : List SourceFile) :
    ((build s isFile files).unresolved.map fun e => Diagnostic.unresolvedImport e.source e.literal) =
      files.flatMap fun file =>
        (file.imports.eraseDups.filter fun literal => (s.find? isFile file.path literal).isNone).map
          (.unresolvedImport file.path) := by
  have pairs := congrArg (List.map fun pair : Path × String => Diagnostic.unresolvedImport pair.1 pair.2)
    (unresolved_build s isFile files)
  rw [List.map_map] at pairs
  refine pairs.trans ?_
  rw [declared, List.filter_flatMap, List.map_flatMap]
  refine List.flatMap_congr fun file _ => ?_
  rw [List.filter_map, List.map_map]
  rfl

namespace Config

variable {σ : Type} [FileSystem σ]

/-- The note on a file that cannot be read. -/
def unreadableNote? (fs : σ) (file : Path) : Option Diagnostic :=
  match FileSystem.read fs file with
  | .ok _ => none
  | .error e => some (.unreadableFile file e.message)

/-- The notes on files that cannot be read. -/
def unreadableNotes (fs : σ) (files : List Path) : List Diagnostic :=
  files.filterMap (unreadableNote? fs)

/-- The literals that are read in a file, each at its first place. -/
def literalsOf (fs : σ) (file : Path) : List String :=
  match FileSystem.read fs file with
  | .ok bytes => (Declarations.ofText (Text.decodeLossy bytes)).imports.eraseDups
  | .error _ => []

/-- The directories that the imports of a file are looked up under. -/
def lookupDirs (c : Config) (base file : Path) : List Path :=
  let primary := c.workspaceDir.absolutize base
  file.parent?.toList ++ primary :: c.protoPaths.map (·.absolutize base) ++ primary.ancestors c.maxAscent

/-- Whether no file stands at a literal of a file under any of those directories. -/
def isLost (c : Config) (fs : σ) (base file : Path) (literal : String) : Bool :=
  (c.lookupDirs base file).all fun dir =>
    !FileSystem.isFile fs (dir.join (.ofString literal)).normalize

/-- The notes on imports that lead nowhere. -/
def lostNotes (c : Config) (fs : σ) (base : Path) (files : List Path) : List Diagnostic :=
  files.flatMap fun file =>
    ((literalsOf fs file).filter (c.isLost fs base file)).map (.unresolvedImport file)

/-- The notes on listed files that are not below the primary root. -/
def outsideNotes (p : CompilePlan) : List Diagnostic :=
  (p.compileSet.filter fun file => !file.isUnder p.primaryRoot).map (.outsideRoot · p.primaryRoot)

variable {c : Config} {fs : σ} {base : Path}

theorem unreadableNotes_eq (files : List Path) :
    ((files.map (SourceFile.scan fs)).filterMap fun f =>
        f.scanError.map fun e => Diagnostic.unreadableFile f.path e) = unreadableNotes fs files := by
  rw [List.filterMap_map, unreadableNotes]
  refine List.filterMap_congr fun file _ => ?_
  rw [Function.comp_apply, SourceFile.scan, unreadableNote?]
  cases FileSystem.read fs file with
  | ok bytes => rfl
  | error e => rfl

theorem literalsOf_eq (file : Path) : (SourceFile.scan fs file).imports.eraseDups = literalsOf fs file := by
  rw [SourceFile.scan, literalsOf]
  cases FileSystem.read fs file with
  | ok bytes => rfl
  | error e => rfl

theorem nodup_literalsOf (file : Path) : (literalsOf fs file).Nodup := by
  rw [← literalsOf_eq]
  exact ImportGraph.nodup_eraseDups _

theorem isLost_eq (absolute : base.isAbsolute) (file : Path) (literal : String) :
    ((c.sourceSetRequest (c.resolvePaths base)).space.find? (FileSystem.isFile fs) file literal).isNone =
      c.isLost fs base file literal := by
  have extra : ((c.protoPaths.map (·.absolutize base)).map (·.absolutize base)) =
      c.protoPaths.map (·.absolutize base) := by
    simp [Path.absolutize_absolutize absolute]
  simp only [SearchSpace.isNone_find?, isLost, lookupDirs, SearchSpace.direct, SearchSpace.ancestors,
    SourceSetRequest.space, SourceSetRequest.primaryRoot, SourceSetRequest.extraRoots, sourceSetRequest,
    resolvePaths, Path.absolutize_absolutize absolute, extra]
  rfl

theorem lostNotes_eq (absolute : base.isAbsolute) (files : List Path) :
    ((ImportGraph.build (c.sourceSetRequest (c.resolvePaths base)).space (FileSystem.isFile fs)
        (files.map (SourceFile.scan fs))).unresolved.map
          fun e => Diagnostic.unresolvedImport e.source e.literal) = c.lostNotes fs base files := by
  rw [ImportGraph.unresolvedImports_build, List.flatMap_map, lostNotes]
  refine List.flatMap_congr fun file _ => ?_
  simp only [literalsOf_eq, SourceSetRequest.path_scan, isLost_eq absolute]

theorem outsideNotes_eq (r : CommandRequest) :
    r.diagnostics = (r.files.filter fun file => !file.isUnder r.primaryRoot).map
      (.outsideRoot · r.primaryRoot) := by
  have outside : ∀ file ∈ r.files,
      (file.relativeTo? r.primaryRoot).isNone = !file.isUnder r.primaryRoot := fun file _ => by
    rw [← Option.not_isSome, Path.isSome_relativeTo?]
  rw [CommandRequest.diagnostics, CommandRequest.outside, List.filter_congr outside]

/-- The notes of a plan with import detection, in their order. -/
theorem diagnostics_planOf (detects : c.autoDetectImports) (absolute : base.isAbsolute) (program : String)
    {files : List Path} {p : CompilePlan}
    (plan : c.planOf (c.resolvePaths base) program (c.sourceSet fs (c.resolvePaths base) files) = p) :
    p.diagnostics = unreadableNotes fs files ++ c.lostNotes fs base files ++
      (if p.fallbackApplied then [.filterFallback p.discovered] else []) ++ outsideNotes p := by
  subst plan
  have detected : (c.sourceSetRequest (c.resolvePaths base)).detectImports := detects
  have unread : (resolutionNotes (c.sourceSet fs (c.resolvePaths base) files)) =
      unreadableNotes fs files ++ c.lostNotes fs base files ++
        (if (c.sourceSet fs (c.resolvePaths base) files).inclusion.fallbackApplied
          then [.filterFallback (c.sourceSet fs (c.resolvePaths base) files).files.length] else []) := by
    rw [resolutionNotes, sourceSet, SourceSetRequest.files_resolve _ _ _ detected,
      SourceSetRequest.graph_resolve _ _ _ detected, unreadableNotes_eq, lostNotes_eq absolute]
  exact congrArg₂ (· ++ ·) unread (outsideNotes_eq _)

/-! ## Each import once -/

theorem count_map_unresolved (file other : Path) (literal : String) (literals : List String) :
    (literals.map (Diagnostic.unresolvedImport other)).count (.unresolvedImport file literal) =
      if other = file then literals.count literal else 0 := by
  split
  · next same =>
      subst same
      exact List.count_map_of_injective _ _ (fun _ _ same => (Diagnostic.unresolvedImport.inj same).2) _
  · next apart =>
      rw [List.count_eq_zero, List.mem_map]
      rintro ⟨_, -, same⟩
      exact apart (Diagnostic.unresolvedImport.inj same).1

/-- A literal that is read in a file is noted as often as the file comes, or never. -/
theorem count_lostNotes {file : Path} {literal : String} (reads : literal ∈ literalsOf fs file)
    (files : List Path) :
    (c.lostNotes fs base files).count (.unresolvedImport file literal) =
      if c.isLost fs base file literal then files.count file else 0 := by
  induction files with
  | nil => simp [lostNotes]
  | cons other files ih =>
      have split : c.lostNotes fs base (other :: files) =
          ((literalsOf fs other).filter (c.isLost fs base other)).map (.unresolvedImport other) ++
            c.lostNotes fs base files := List.flatMap_cons
      rw [split, List.count_append, ih, count_map_unresolved, List.count_cons]
      by_cases same : other = file
      · subst same
        cases lost : c.isLost fs base other literal with
        | true =>
            rw [List.count_filter lost, List.count_eq_one_of_mem (nodup_literalsOf other) reads]
            simp [Nat.add_comm]
        | false =>
            have never : literal ∉ (literalsOf fs other).filter (c.isLost fs base other) := by
              simp [lost]
            simp [List.count_eq_zero.mpr never]
      · simp [same]

theorem count_diagnostics {files : List Path} {p : CompilePlan}
    (notes : p.diagnostics = unreadableNotes fs files ++ c.lostNotes fs base files ++
      (if p.fallbackApplied then [.filterFallback p.discovered] else []) ++ outsideNotes p)
    (file : Path) (literal : String) :
    p.diagnostics.count (.unresolvedImport file literal) =
      (c.lostNotes fs base files).count (.unresolvedImport file literal) := by
  have read : Diagnostic.unresolvedImport file literal ∉ unreadableNotes fs files := by
    simp only [unreadableNotes, List.mem_filterMap, not_exists, not_and, unreadableNote?]
    intro other _
    cases FileSystem.read fs other with
    | ok bytes => simp
    | error e => simp
  have inside : Diagnostic.unresolvedImport file literal ∉ outsideNotes p := by
    simp [outsideNotes]
  have kept : Diagnostic.unresolvedImport file literal ∉
      (if p.fallbackApplied then [.filterFallback p.discovered] else []) := by
    split
    · simp
    · simp
  rw [notes, List.count_append, List.count_append, List.count_append, List.count_eq_zero.mpr read,
    List.count_eq_zero.mpr inside, List.count_eq_zero.mpr kept, Nat.zero_add]
  rfl

/-- The notes of a plan are complete, exact and in order, and each import that was read is held by a directory
    or noted once for each time its file was found: exactly once when no file is found twice. -/
theorem diagnostics_of_gives (current : FileSystem.currentDir fs = .ok base) (absolute : base.isAbsolute)
    (detects : c.autoDetectImports) {p : CompilePlan} (gives : c.Gives fs p) :
    ∃ files, c.findFiles fs = .ok files ∧ p.discovered = files.length ∧
      p.diagnostics = unreadableNotes fs files ++ c.lostNotes fs base files ++
        (if p.fallbackApplied then [.filterFallback p.discovered] else []) ++ outsideNotes p ∧
      (∀ file, ∀ literal ∈ literalsOf fs file,
        p.diagnostics.count (.unresolvedImport file literal) =
          if c.isLost fs base file literal then files.count file else 0) ∧
      (files.Nodup → ∀ file ∈ files, ∀ literal ∈ literalsOf fs file, c.isLost fs base file literal →
        p.diagnostics.count (.unresolvedImport file literal) = 1) := by
  obtain ⟨program, paths, files, valid, found, -, plan⟩ := gives.plans
  obtain ⟨-, -, rfl⟩ := (validate_eq_ok_of_currentDir current).mp valid
  have notes := diagnostics_planOf detects absolute program plan
  have counts (file : Path) (literal : String) (reads : literal ∈ literalsOf fs file) :
      p.diagnostics.count (.unresolvedImport file literal) =
        if c.isLost fs base file literal then files.count file else 0 := by
    rw [count_diagnostics notes, count_lostNotes reads]
  refine ⟨files, findFiles_eq_ok.mpr ⟨_, valid, found⟩, ?_, notes, counts,
    fun once file member literal reads lost => ?_⟩
  · rw [← plan]
    exact SourceSetRequest.length_files_resolve _ fs files
  · rw [counts file literal reads, if_pos lost, List.count_eq_one_of_mem once member]

/-! ## A file found twice -/

/-- Two entries that are one file in normal form. -/
def doubledFiles : List (Path × Text.Bytes) :=
  [MemoryFiles.textFile "/w/a.proto" "import 'b.proto';", MemoryFiles.textFile "/w/s/../a.proto" ""]

def doubledTree : MemoryFiles := MemoryFiles.ofFiles (.ofString "/") doubledFiles

def doubledConfig : Config := ofPaths "/w" "/w" "/o" []

theorem stages_doubledConfig :
    doubledConfig.validate doubledTree = .ok (doubledConfig.resolvePaths (.ofString "/")) ∧
      discover doubledTree (.ofString "/w") = .ok [.ofString "/w/a.proto", .ofString "/w/a.proto"] :=
  stages_ofFiles rfl rfl (MemoryFiles.isDir_ofFiles rfl (by decide))
    (MemoryFiles.isDir_ofFiles rfl (by decide)) (by decide) (by decide +kernel) (by decide +kernel)
    (by decide)

/-- An import of a file that is listed under two spellings is noted twice. -/
theorem lostNotes_doubled :
    ∃ p, doubledConfig.Gives doubledTree p ∧ "b.proto" ∈ literalsOf doubledTree (.ofString "/w/a.proto") ∧
      p.diagnostics.count (.unresolvedImport (.ofString "/w/a.proto") "b.proto") = 2 := by
  have read : FileSystem.read doubledTree (.ofString "/w/a.proto") =
      .ok (MemoryFiles.textFile "/w/a.proto" "import 'b.proto';").2 := MemoryFiles.read_ofFiles (by decide)
  have declares : Declarations.ofText (Text.decodeLossy (MemoryFiles.textFile "/w/a.proto" "import 'b.proto';").2) =
      ⟨["b.proto"], false, false⟩ := by
    decide +kernel
  have literals : literalsOf doubledTree (.ofString "/w/a.proto") = ["b.proto"] := by
    simp only [literalsOf, read, declares]
    decide
  have lost : doubledConfig.isLost doubledTree (.ofString "/") (.ofString "/w/a.proto") "b.proto" := by
    simp only [isLost, doubledTree, MemoryFiles.isFile_eq]
    decide
  have member : "b.proto" ∈ literalsOf doubledTree (.ofString "/w/a.proto") := literals ▸ List.mem_cons_self
  have gives : doubledConfig.Gives doubledTree _ :=
    .inl ⟨{}, plan_eq_ok.mpr ⟨_, _, stages_doubledConfig.1, stages_doubledConfig.2, by decide, rfl⟩⟩
  refine ⟨_, gives, member, ?_⟩
  have notes := @diagnostics_planOf _ _ doubledConfig doubledTree (.ofString "/") rfl rfl doubledConfig.protoc
    [.ofString "/w/a.proto", .ofString "/w/a.proto"] _ rfl
  rw [count_diagnostics notes, count_lostNotes member, if_pos lost]
  decide

section Scattered

open SourceSetRequest

/-- A plan for the importer and the file next to it. -/
def scatteredConfig : Config := ofPaths "/a/b/s" "/a/b" "/o" []

theorem stages_scatteredConfig :
    scatteredConfig.validate scatteredTree = .ok (scatteredConfig.resolvePaths (.ofString "/")) ∧
      discover scatteredTree (.ofString "/a/b/s") = .ok [importer.1, .ofString "/a/b/s/n.proto"] :=
  stages_ofFiles rfl rfl (MemoryFiles.isDir_ofFiles rfl (by decide))
    (MemoryFiles.isDir_ofFiles rfl (by decide)) (by decide) (by decide +kernel) (by decide +kernel)
    (by decide)

theorem literalsOf_importer :
    literalsOf scatteredTree importer.1 = ["n.proto", "d.proto", "x.proto", "y.proto"] := by
  have read : FileSystem.read scatteredTree importer.1 = .ok importer.2 :=
    MemoryFiles.read_ofFiles (by decide)
  simp only [literalsOf, read, importer_declares]
  decide

/-- Of the four imports only the one that no searched directory holds is noted, and this once. -/
theorem diagnostics_of_gives_scattered :
    ∃ p, scatteredConfig.Gives scatteredTree p ∧
      (∀ literal ∈ ["n.proto", "d.proto", "x.proto", "y.proto"],
        p.diagnostics.count (.unresolvedImport importer.1 literal) =
          if literal = "d.proto" then 1 else 0) := by
  have gives : scatteredConfig.Gives scatteredTree _ :=
    .inl ⟨{}, plan_eq_ok.mpr ⟨_, _, stages_scatteredConfig.1, stages_scatteredConfig.2, by decide, rfl⟩⟩
  have current : FileSystem.currentDir scatteredTree = .ok (.ofString "/") :=
    MemoryFiles.currentDir_ofFiles
  obtain ⟨files, find, -, -, counts, -⟩ := diagnostics_of_gives current rfl rfl gives
  have found := findFiles_eq_ok.mpr ⟨_, stages_scatteredConfig.1, stages_scatteredConfig.2⟩
  obtain rfl := Except.ok.inj (found.symm.trans find)
  have once : List.count importer.1 [importer.1, .ofString "/a/b/s/n.proto"] = 1 := by decide
  have lost : ∀ literal ∈ ["n.proto", "d.proto", "x.proto", "y.proto"],
      scatteredConfig.isLost scatteredTree (.ofString "/") importer.1 literal =
        decide (literal = "d.proto") := by
    simp only [isLost, scatteredTree, MemoryFiles.isFile_eq]
    decide
  refine ⟨_, gives, fun literal read => ?_⟩
  rw [counts importer.1 literal (literalsOf_importer ▸ read), once, lost literal read]
  simp only [decide_eq_true_eq]

end Scattered

end Config

end ProtoTree
