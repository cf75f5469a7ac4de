import ProtoTree.Proofs.Arguments

/-! # Containment

The proto directory lies below the primary root, and discovery goes on from it
through names. So all files of a plan lie below the primary root, each is passed
by its names from there, and none has to be noted as lying outside.
-/

namespace ProtoTree

/-- A file argument below the primary root is a relative path of names. -/
theorem CommandRequest.names_fileArg {r : CommandRequest} (rooted : r.primaryRoot.isAbsolute) {file : Path}
    (normal : file.Normal) (under : file.isUnder r.primaryRoot) :
    (Path.ofString (r.fileArg file)).isAbsolute = false ∧
      ∀ c ∈ (Path.ofString (r.fileArg file)).components, c.isName := by
  obtain ⟨parts, split⟩ := Path.isUnder_iff.mp under
  have names := normal.names_of_append rooted split.symm
  have spelled : ∀ c ∈ parts, c.Spelled := fun c member => (names c member).1
  have rest : file.relativeTo? r.primaryRoot = some (.ofComponents parts) :=
    Path.relativeTo?_eq_some.mpr ⟨parts, split.symm, rfl⟩
  rw [fileArg, rest, Option.getD_some, ← Path.repaired, Path.isAbsolute_repaired, Path.components_repaired,
    Path.components_ofComponents spelled, List.forall_mem_map]
  refine ⟨Path.isAbsolute_ofComponents spelled, fun c member => ?_⟩
  rw [Path.isName_repaired]
  exact (names c member).2

/-- A command whose files all lie below the primary root has nothing to note. -/
theorem CommandRequest.diagnostics_of_under {r : CommandRequest}
    (under : ∀ file ∈ r.files, file.isUnder r.primaryRoot) : r.diagnostics = [] := by
  have none : r.outside = [] := by
    rw [outside, List.filter_eq_nil_iff]
    intro file member
    rw [← Option.not_isSome, Path.isSome_relativeTo?, under file member]
    simp
  rw [diagnostics, none, List.map_nil]

namespace Config

variable {σ : Type} [FileSystem σ] {c : Config} {fs : σ}

/-- No stage before the command notes that a file lies outside. -/
theorem outsideRoot_not_mem_resolutionNotes (s : SourceSet) (file root : Path) :
    .outsideRoot file root ∉ resolutionNotes s := by
  intro noted
  rcases List.mem_append.mp noted with early | fallback
  · rcases List.mem_append.mp early with unread | lost
    · obtain ⟨scanned, -, eq⟩ := List.mem_filterMap.mp unread
      obtain ⟨reason, -, eq⟩ := Option.map_eq_some_iff.mp eq
      cases eq
    · obtain ⟨edge, -, eq⟩ := List.mem_map.mp lost
      cases eq
  · split at fallback
    · cases List.mem_singleton.mp fallback
    · cases fallback

/-- Validated paths have the proto directory below the primary root. -/
theorem isUnder_of_validate {paths : ResolvedPaths} (valid : c.validate fs = .ok paths) :
    paths.protoDir.isUnder paths.workspaceDir := by
  obtain ⟨-, base, -, faultless, rfl⟩ := validate_eq_ok.mp valid
  obtain ⟨-, -, within⟩ := directoryFault?_eq_none.mp faultless
  rwa [Path.isSome_relativeTo?] at within

/-- A plan over a listing that goes on through names keeps to the primary root. -/
theorem plan_contained {base : Path} (current : FileSystem.currentDir fs = .ok base)
    (absolute : base.isAbsolute) (lists : ListsThroughNames fs (c.protoDir.absolutize base))
    {p : CompilePlan} (gives : c.Gives fs p) :
    (∀ file root, .outsideRoot file root ∉ p.diagnostics) ∧
      (∀ arg ∈ p.fileArgs, (Path.ofString arg).isAbsolute = false ∧
        ∀ part ∈ (Path.ofString arg).components, part.isName) ∧
      ∀ file ∈ p.compileSet ++ p.omitted, file.isUnder p.primaryRoot := by
  obtain ⟨program, paths, files, valid, found, -, rfl⟩ := gives.plans
  have within := isUnder_of_validate valid
  obtain ⟨-, -, rfl⟩ := (validate_eq_ok_of_currentDir current).mp valid
  have rooted : (c.resolvePaths base).workspaceDir.isAbsolute :=
    Path.isAbsolute_absolutize absolute c.workspaceDir
  have covers := (c.sourceSetRequest (c.resolvePaths base)).covers_resolve fs files
  have under : ∀ file ∈ files, file.isUnder (c.resolvePaths base).workspaceDir := fun file member => by
    have below := isUnder_of_mem_discover (Path.normal_absolutize _ _) lists found member
    exact Path.isUnder_iff.mpr ((Path.isUnder_iff.mp within).trans (Path.isUnder_iff.mp below))
  refine ⟨fun file root noted => ?_, fun arg member => ?_, fun file member => ?_⟩
  · rcases List.mem_append.mp noted with early | late
    · exact outsideRoot_not_mem_resolutionNotes _ file root early
    · rw [CommandRequest.diagnostics_of_under fun file listed => under file (covers.compile.subset listed)]
        at late
      cases late
  · rw [fileArgs_planOf] at member
    obtain ⟨file, listed, rfl⟩ := List.mem_map.mp member
    have discovered : file ∈ files := covers.compile.subset listed
    exact CommandRequest.names_fileArg rooted (normal_of_mem_discover found discovered)
      (under file discovered)
  · rcases List.mem_append.mp member with listed | left
    · exact under file (covers.compile.subset listed)
    · exact under file (covers.omitted.subset left)

/-- The files of the pair are passed by their names from the workspace. -/
theorem plan_contained_pair :
    ∃ p, (pairConfig.plan pairTree {}).value = .ok p ∧
      (∀ file root, .outsideRoot file root ∉ p.diagnostics) ∧
      (∀ arg ∈ p.fileArgs, (Path.ofString arg).isAbsolute = false ∧
        ∀ part ∈ (Path.ofString arg).components, part.isName) ∧
      ∀ file ∈ p.compileSet ++ p.omitted, file.isUnder p.primaryRoot := by
  obtain ⟨p, planned⟩ := exists_plan_pairConfig
  have lists := listsNames_pairTree MemoryFiles.currentDir_ofFiles
  exact ⟨p, planned, plan_contained MemoryFiles.currentDir_ofFiles rfl lists.throughNames (.inl ⟨_, planned⟩)⟩

end Config

end ProtoTree
