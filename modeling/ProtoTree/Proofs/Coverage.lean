import ProtoTree.Proofs.Discovery
import ProtoTree.Proofs.Inclusion
import ProtoTree.Proofs.Plan
import ProtoTree.Proofs.SearchRoots

/-! # Files of a plan

A plan lists or leaves out each discovered file, and does so once. If imports
are not detected it lists all of them, and its roots are the first ones that it
has when they are.
-/

namespace ProtoTree

/-- A decision that lists or leaves out each of some files, in their order. -/
structure Inclusion.Covers (d : Inclusion) (files : List Path) : Prop where
  filled : files ≠ [] → d.compile ≠ []
  compile : d.compile.Sublist files
  omitted : d.omitted.Sublist files
  all : (d.compile ++ d.omitted).Perm files
  fallback : d.fallbackApplied → d.compile = files

namespace Inclusion

/-- A decision that lists all of some files. -/
theorem covers_of_compile_eq {d : Inclusion} {files : List Path} (compile : d.compile = files)
    (omitted : d.omitted = []) : d.Covers files where
  filled := by rw [compile]; exact id
  compile := by rw [compile]
  omitted := by rw [omitted]; exact List.nil_sublist files
  all := by rw [compile, omitted, List.append_nil]
  fallback _ := compile

theorem covers_ofGraph (files : List SourceFile) (g : ImportGraph) :
    (ofGraph files g).Covers (files.map (·.path)) := by
  rcases ofGraph_cases files g with ⟨-, eq⟩ | ⟨kept, eq⟩
  · exact covers_of_compile_eq (by rw [eq]) (by rw [eq])
  · rw [eq]
    refine ⟨fun filled => ?_, List.filter_sublist.map _, List.filter_sublist.map _, ?_, nofun⟩
    · obtain ⟨file, member, keeps⟩ := kept fun none => filled (by rw [none]; rfl)
      exact List.ne_nil_of_mem (List.mem_map_of_mem (List.mem_filter.mpr ⟨member, keeps⟩))
    · rw [← List.map_append]
      exact (List.filter_append_perm _ files).map _

end Inclusion

namespace SourceSetRequest

variable {σ : Type} [FileSystem σ] (r : SourceSetRequest) (fs : σ) (discovered : List Path)

theorem covers_resolve : (r.resolve fs discovered).inclusion.Covers discovered := by
  rw [resolve]
  split
  · have covers := Inclusion.covers_ofGraph (discovered.map (SourceFile.scan fs))
      (ImportGraph.build r.space (FileSystem.isFile fs) (discovered.map (SourceFile.scan fs)))
    rwa [paths_scan] at covers
  · refine Inclusion.covers_of_compile_eq ?_ rfl
    simp [resolveAll, Inclusion.everything, Function.comp_def]

theorem length_files_resolve : (r.resolve fs discovered).files.length = discovered.length := by
  rw [resolve]
  split
  · simp [resolveImports]
  · simp [resolveAll]

/-- Import detection adds roots only behind the others. -/
theorem roots_resolveAll_prefix :
    (r.resolveAll discovered).roots <+: (r.resolve fs discovered).roots := by
  rw [resolve]
  split
  · have added := ImportGraph.prefix_distinctBy_append Path.key
      ((r.primaryRoot :: r.extraRoots).map (·.absolutize r.base))
      ((r.resolveImports fs discovered).graph.ancestorRoots.map (·.absolutize r.base))
    simp only [resolveAll, resolveImports, SearchRoots.dedupe_eq, List.append_nil, List.map_append]
      at added ⊢
    exact added
  · exact List.prefix_rfl

end SourceSetRequest

namespace Config

variable {σ : Type} [FileSystem σ] {c : Config} {fs : σ}

/-- The configuration with import detection switched off. -/
def withoutDetection (c : Config) : Config := { c with autoDetectImports := false }

theorem sourceSet_withoutDetection (paths : ResolvedPaths) (files : List Path) :
    c.withoutDetection.sourceSet fs paths files = (c.sourceSetRequest paths).resolveAll files := rfl

/-- Every discovered file is listed or left out in the plan, and this once. -/
theorem plan_covers (lists : ∀ base, FileSystem.currentDir fs = .ok base →
      ListsNames fs (c.protoDir.absolutize base))
    {clock : Stopwatch} {p : CompilePlan} (planned : (c.plan fs clock).value = .ok p) :
    ∃ files, c.findFiles fs = .ok files ∧ Path.Increasing files ∧ p.discovered = files.length ∧
      p.compileSet ≠ [] ∧ p.compileSet.Sublist files ∧ p.omitted.Sublist files ∧
      (∀ f ∈ files, p.compileSet.count f + p.omitted.count f = 1) ∧
      (p.fallbackApplied → p.compileSet = files) ∧
      ∀ clock', ∃ whole, (c.withoutDetection.plan fs clock').value = .ok whole ∧
        whole.compileSet = files ∧ whole.omitted = [] ∧ whole.roots <+: p.roots := by
  obtain ⟨paths, files, valid, found, filled, rfl⟩ := plan_eq_ok.mp planned
  obtain ⟨-, base, current, -, rfl⟩ := validate_eq_ok.mp valid
  have increasing := increasing_discover (Path.normal_absolutize _ _) (lists base current) found
  have covers := (c.sourceSetRequest (c.resolvePaths base)).covers_resolve fs files
  refine ⟨files, findFiles_eq_ok.mpr ⟨_, valid, found⟩, increasing,
    SourceSetRequest.length_files_resolve _ fs files, covers.filled filled, covers.compile,
    covers.omitted, fun f member => ?_, covers.fallback, fun clock' => ?_⟩
  · have once := covers.all.count_eq f
    rw [List.count_append, List.count_eq_one_of_mem increasing.nodup member] at once
    exact once
  · have plain : c.withoutDetection.Plans fs c.protoc _ := ⟨_, files, valid, found, filled, rfl⟩
    refine ⟨_, plan_eq_ok.mpr plain, ?_, rfl, SourceSetRequest.roots_resolveAll_prefix
      (c.sourceSetRequest (c.resolvePaths base)) fs files⟩
    simp [planOf, sourceSet_withoutDetection, SourceSetRequest.resolveAll, Inclusion.everything,
      Function.comp_def]

theorem listsNames_pairTree {base : Path} (current : FileSystem.currentDir pairTree = .ok base) :
    ListsNames pairTree (pairConfig.protoDir.absolutize base) := by
  obtain rfl := Except.ok.inj (MemoryFiles.currentDir_ofFiles.symm.trans current)
  exact MemoryFiles.listsNames_ofFiles rfl (by decide)

/-- Each of the two files is listed or left out, and at least one is listed. -/
theorem plan_covers_pair :
    ∃ p, (pairConfig.plan pairTree {}).value = .ok p ∧ p.discovered = 2 ∧ p.compileSet ≠ [] ∧
      ∀ f ∈ [Path.ofString "/w/p/a.proto", .ofString "/w/p/b.proto"],
        p.compileSet.count f + p.omitted.count f = 1 := by
  obtain ⟨p, planned⟩ := exists_plan_pairConfig
  obtain ⟨files, find, -, count, listed, -, -, once, -⟩ := plan_covers (fun _ => listsNames_pairTree) planned
  have found := findFiles_eq_ok.mpr ⟨_, stages_pairConfig.1, stages_pairConfig.2⟩
  obtain rfl := Except.ok.inj (found.symm.trans find)
  exact ⟨p, planned, count, listed, once⟩

end Config

end ProtoTree
