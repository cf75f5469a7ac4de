import ProtoTree.Proofs.Plan
import ProtoTree.Proofs.SearchRoots

/-! # Spellings of paths

A plan looks at the paths of a configuration only in their absolute normal form,
and at the extra roots only as far as they are new: repeating an extra root, or
giving the workspace directory as one, changes neither where imports lead nor
which roots are emitted.
-/

namespace ProtoTree

open ImportGraph

/-- The directories that are searched and emitted: the primary root, then the extra roots, each once. -/
def SearchSpace.givenRoots (s : SearchSpace) : List Path := distinctBy id (s.primary :: s.extra)

/-- Search spaces with the same roots and ancestors find the same files. -/
theorem SearchSpace.find?_congr {s t : SearchSpace} (roots : s.givenRoots = t.givenRoots)
    (ancestors : s.ancestors = t.ancestors) (isFile : Path → Bool) (file : Path) (literal : String) :
    s.find? isFile file literal = t.find? isFile file literal := by
  have first (u : SearchSpace) : (u.direct file).find? (holds isFile literal) =
      (file.parent?.toList.find? (holds isFile literal)).or
        (u.givenRoots.find? (holds isFile literal)) := by
    have kept : u.givenRoots.find? (holds isFile literal) =
        (u.primary :: u.extra).find? (holds isFile literal) :=
      find?_distinctBy (fun a b (same : a = b) => congrArg _ same) _
    rw [direct, List.find?_append, kept]
  have direct : (s.direct file).find? (holds isFile literal) =
      (t.direct file).find? (holds isFile literal) := by
    rw [first, first, roots]
  have test : (fun dir => isFile (candidate dir literal)) = holds isFile literal := rfl
  rw [find?, find?, findAmong, findAmong, test, direct, ancestors]

theorem ImportGraph.build_congr {s t : SearchSpace} {isFile : Path → Bool}
    (same : ∀ file literal, s.find? isFile file literal = t.find? isFile file literal)
    (files : List SourceFile) : build s isFile files = build t isFile files := by
  have links : linkIn s isFile files = linkIn t isFile files := by
    funext i file literal
    rw [linkIn, linkIn, same]
  rw [build_eq, build_eq, buildIn, buildIn, linksIn, linksIn, links]

namespace SourceSetRequest

variable {σ : Type} [FileSystem σ] {r : SourceSetRequest}

/-- With an absolute base, the emitted roots follow from the given ones. -/
theorem dedupe_givenRoots (absolute : r.base.isAbsolute) (ancestors : List Path) :
    SearchRoots.dedupe r.base r.primaryRoot r.extraRoots ancestors =
      distinctBy Path.key (r.space.givenRoots ++ ancestors.map (·.absolutize r.base)) := by
  have settled : (r.primaryRoot :: r.extraRoots).map (·.absolutize r.base) =
      r.primaryRoot :: r.extraRoots := by
    simp [primaryRoot, extraRoots, Function.comp_def, Path.absolutize_absolutize absolute]
  have once : distinctBy Path.key r.space.givenRoots = distinctBy Path.key (r.primaryRoot :: r.extraRoots) :=
    distinctBy_distinctBy (fun a b (same : a = b) => congrArg Path.key same) _
  rw [SearchRoots.dedupe_eq, List.map_append, settled, distinctBy_append, ← once, ← distinctBy_append]

/-- Extra roots matter only as far as they are new. -/
theorem resolve_congr {extra : List Path} (absolute : r.base.isAbsolute)
    (roots : r.space.givenRoots = ({ r with extra } : SourceSetRequest).space.givenRoots) (fs : σ)
    (discovered : List Path) :
    r.resolve fs discovered = ({ r with extra } : SourceSetRequest).resolve fs discovered := by
  have emitted (ancestors : List Path) :
      SearchRoots.dedupe r.base r.primaryRoot r.extraRoots ancestors =
        SearchRoots.dedupe r.base r.primaryRoot ({ r with extra } : SourceSetRequest).extraRoots
          ancestors := by
    rw [dedupe_givenRoots absolute, roots]
    exact (dedupe_givenRoots (r := { r with extra }) absolute ancestors).symm
  have graphs := build_congr (SearchSpace.find?_congr roots rfl (FileSystem.isFile fs))
    (discovered.map (SourceFile.scan fs))
  have sameRoot : ({ r with extra } : SourceSetRequest).primaryRoot = r.primaryRoot := rfl
  simp only [resolve, resolveImports, resolveAll, graphs, emitted, sameRoot]

end SourceSetRequest

namespace Config

/-- The extra roots of a configuration that are not the workspace directory, each once. -/
def addedRoots (c : Config) (base : Path) : List Path :=
  distinctBy id ((c.protoPaths.map (·.absolutize base)).filter (· != c.workspaceDir.absolutize base))

/-- Two configurations that differ at most in how their paths are spelled when these are taken from `base`. -/
structure Respelled (base : Path) (c d : Config) : Prop where
  settings :
    { c with
      protoDir := d.protoDir, workspaceDir := d.workspaceDir, outputDir := d.outputDir
      protoPaths := d.protoPaths } = d
  given : ∀ dir ∈ [c.protoDir, c.workspaceDir, c.outputDir, d.protoDir, d.workspaceDir, d.outputDir],
    dir.isEmpty = false
  protoDir : c.protoDir.absolutize base = d.protoDir.absolutize base
  workspaceDir : c.workspaceDir.absolutize base = d.workspaceDir.absolutize base
  outputDir : c.outputDir.absolutize base = d.outputDir.absolutize base
  addedRoots : c.addedRoots base = d.addedRoots base

variable {σ : Type} [FileSystem σ] {fs : σ} {base : Path} {c d : Config}

theorem Respelled.symm (same : Respelled base c d) : Respelled base d c where
  settings := by rw [← same.settings]
  given dir member := same.given dir (by simp only [List.mem_cons] at member ⊢; tauto)
  protoDir := same.protoDir.symm
  workspaceDir := same.workspaceDir.symm
  outputDir := same.outputDir.symm
  addedRoots := same.addedRoots.symm

theorem Respelled.others (same : Respelled base c d) :
    c.maxAscent = d.maxAscent ∧ c.autoDetectImports = d.autoDetectImports ∧ c.protoc = d.protoc ∧
      c.pluginOutputs = d.pluginOutputs := by
  rw [← same.settings]
  exact ⟨rfl, rfl, rfl, rfl⟩

theorem Respelled.plainFault? (same : Respelled base c d) : d.plainFault? = c.plainFault? := by
  have given : c.protoDir.isEmpty = false ∧ c.workspaceDir.isEmpty = false ∧
      c.outputDir.isEmpty = false ∧ d.protoDir.isEmpty = false ∧ d.workspaceDir.isEmpty = false ∧
      d.outputDir.isEmpty = false := by simpa using same.given
  obtain ⟨proto, workspace, output, proto', workspace', output'⟩ := given
  rw [Config.plainFault?, Config.plainFault?, proto, workspace, output, proto', workspace', output',
    ← same.settings]

theorem Respelled.directoryFault? (same : Respelled base c d)
    (fine : c.directoryFault? fs (c.resolvePaths base) = none) :
    d.directoryFault? fs (d.resolvePaths base) = none := by
  rw [directoryFault?_eq_none] at fine ⊢
  simpa only [resolvePaths, ← same.protoDir, ← same.workspaceDir] using fine

theorem givenRoots_sourceSetRequest (absolute : base.isAbsolute) :
    (c.sourceSetRequest (c.resolvePaths base)).space.givenRoots =
      c.workspaceDir.absolutize base :: c.addedRoots base := by
  simp only [SearchSpace.givenRoots, SourceSetRequest.space, SourceSetRequest.primaryRoot,
    SourceSetRequest.extraRoots, sourceSetRequest, resolvePaths, List.map_map, Function.comp_def,
    Path.absolutize_absolutize absolute, distinctBy_cons, id, addedRoots]

/-- Both configurations resolve the same source set. -/
theorem Respelled.sourceSet (same : Respelled base c d) (absolute : base.isAbsolute) (fs : σ)
    (files : List Path) :
    c.sourceSet fs (c.resolvePaths base) files = d.sourceSet fs (d.resolvePaths base) files := by
  have request : ({ c.sourceSetRequest (c.resolvePaths base) with
      extra := d.protoPaths.map (·.absolutize base) } : SourceSetRequest) =
      d.sourceSetRequest (d.resolvePaths base) := by
    obtain ⟨ascent, detects, -, -⟩ := same.others
    simp only [sourceSetRequest, resolvePaths, same.workspaceDir, ascent, detects]
  have roots := @givenRoots_sourceSetRequest base c absolute
  rw [same.workspaceDir, same.addedRoots, ← givenRoots_sourceSetRequest absolute, ← request] at roots
  rw [Config.sourceSet, Config.sourceSet, ← request]
  exact SourceSetRequest.resolve_congr absolute roots fs files

theorem plan_of_respelled (current : FileSystem.currentDir fs = .ok base)
    (absolute : base.isAbsolute) (same : Respelled base c d) {clock clock' : Stopwatch}
    {p : CompilePlan} (planned : (c.plan fs clock).value = .ok p) :
    (d.plan fs clock').value = .ok p := by
  obtain ⟨paths, files, valid, found, filled, rfl⟩ := plan_eq_ok.mp planned
  obtain ⟨plain, fine, rfl⟩ := (validate_eq_ok_of_currentDir current).mp valid
  refine plan_eq_ok.mpr ⟨d.resolvePaths base, files, (validate_eq_ok_of_currentDir current).mpr ?_, ?_,
    filled, ?_⟩
  · exact ⟨same.plainFault?.trans plain, same.directoryFault? fine, rfl⟩
  · simpa only [resolvePaths, same.protoDir] using found
  · obtain ⟨-, -, program, outputs⟩ := same.others
    rw [same.sourceSet absolute fs files, program]
    generalize d.sourceSet fs (d.resolvePaths base) files = set
    simp only [planOf, commandRequest, resolvePaths, same.workspaceDir, same.outputDir, outputs]

/-- Respelling the paths of a configuration changes neither whether it has a plan nor which. -/
theorem plan_respelled (current : FileSystem.currentDir fs = .ok base) (absolute : base.isAbsolute)
    (same : Respelled base c d) (clock clock' : Stopwatch) (p : CompilePlan) :
    (c.plan fs clock).value = .ok p ↔ (d.plan fs clock').value = .ok p :=
  ⟨plan_of_respelled current absolute same, plan_of_respelled current absolute same.symm⟩

/-- The same paths in other spellings; one extra root is given twice, and the workspace directory is another. -/
def pairConfigRespelled : Config := ofPaths "./p//" "/w/p/.." "/w/x/../out" ["/w", "/l/", "../l/."]

theorem respelled_pairConfig : Respelled (.ofString "/w") pairConfig pairConfigRespelled where
  settings := rfl
  given := by decide
  protoDir := by decide
  workspaceDir := by decide
  outputDir := by decide
  addedRoots := by decide

theorem plan_pairConfigRespelled :
    ∃ p, (pairConfig.plan pairTree {}).value = .ok p ∧
      (pairConfigRespelled.plan pairTree {}).value = .ok p := by
  obtain ⟨p, planned⟩ := exists_plan_pairConfig
  exact ⟨p, planned, (plan_respelled MemoryFiles.currentDir_ofFiles rfl respelled_pairConfig {} {} p).mp
    planned⟩

end Config

end ProtoTree
