import ProtoTree.Proofs.Coverage
import ProtoTree.Proofs.Path.Repaired
import ProtoTree.Proofs.Run

/-! # Arguments of a plan

The arguments are the roots behind their flags, the outputs, and the listed
files. A file argument, taken from the working directory, is read as the file
that it stands for, whether it was written relative to that directory or not. It
is the file itself when what was written is text.
-/

namespace ProtoTree

namespace Path

/-- A path as it is named from a directory: relative to it, or as it is when it lies outside. -/
def namedFrom (root file : Path) : Path := (file.relativeTo? root).getD file

section NamedFrom

variable {root file : Path} (rootNormal : root.Normal) (rooted : root.isAbsolute) (normal : file.Normal)
  (absolute : file.isAbsolute)
include rootNormal rooted normal absolute

/-- The name of a file leads from the directory to it. -/
theorem absolutize_namedFrom : (root.namedFrom file).absolutize root = file := by
  rw [namedFrom]
  cases below : file.relativeTo? root with
  | some rest => exact absolutize_relativeTo normal rootNormal rooted below
  | none => rw [Option.getD_none, absolutize_of_absolute absolute, normal.normalize_eq_self]

/-- What is written of a name leads from the directory to what is read as the file. -/
theorem text_absolutize_namedFrom :
    ((ofString (root.namedFrom file).text).absolutize root).text = file.text := by
  have name := absolutize_namedFrom rootNormal rooted normal absolute
  rw [← repaired_eq_iff, absolutize_repaired, (isText_ofString _).repaired_eq_self, ← repaired,
    ← absolutize_repaired, name]

end NamedFrom

end Path

namespace Config

variable {σ : Type} [FileSystem σ] {c : Config} {fs : σ}

/-- As many arguments from the end as there are listed files are the file arguments. -/
theorem fileArgs_planOf (paths : ResolvedPaths) (program : String) (s : SourceSet) :
    (c.planOf paths program s).fileArgs =
      s.inclusion.compile.map (c.commandRequest paths s).fileArg := by
  have files : (c.planOf paths program s).compileSet = s.inclusion.compile := rfl
  have args : (c.planOf paths program s).args = (c.commandRequest paths s).args := rfl
  have listed : (c.commandRequest paths s).files = s.inclusion.compile := rfl
  rw [CompilePlan.fileArgs, files, args, CommandRequest.args, listed, List.length_append,
    List.length_map, Nat.add_sub_cancel, List.drop_left]

/-- The arguments name the roots, the outputs, and the listed files, in this order. From the working directory the
    argument of an absolute file leads to what is read as the file, and to the file itself when its name from the
    primary root is text. -/
theorem args_of_gives {base : Path} (current : FileSystem.currentDir fs = .ok base)
    (absolute : base.isAbsolute) {p : CompilePlan} (gives : c.Gives fs p) :
    p.fileArgs.length = p.compileSet.length ∧
      (∀ (i : Nat) arg file, p.fileArgs[i]? = some arg → p.compileSet[i]? = some file → file.isAbsolute →
        ((Path.ofString arg).absolutize p.workingDir).text = file.text ∧
          ((p.primaryRoot.namedFrom file).IsText → (Path.ofString arg).absolutize p.workingDir = file)) ∧
      (ListsBelow fs → ∀ file ∈ p.compileSet, file.isAbsolute) ∧
      p.args = (p.roots.flatMap fun root => ["-I", root.text]) ++
        (c.pluginOutputs.map fun o => o.plugin.outputArg o.options p.outputDir.text) ++ p.fileArgs := by
  obtain ⟨program, paths, files, valid, found, -, rfl⟩ := gives.plans
  obtain ⟨-, -, rfl⟩ := (validate_eq_ok_of_currentDir current).mp valid
  have rooted (dir : Path) := Path.isAbsolute_absolutize absolute dir
  have covers := (c.sourceSetRequest (c.resolvePaths base)).covers_resolve fs files
  refine ⟨?_, fun i arg file argument listed onward => ?_, fun below file listed => ?_, ?_⟩
  · rw [fileArgs_planOf, List.length_map]
    rfl
  · have discovered : file ∈ files := covers.compile.subset (List.mem_of_getElem? listed)
    have settled := normal_of_mem_discover found discovered
    have same : (c.sourceSet fs (c.resolvePaths base) files).inclusion.compile[i]? = some file := listed
    rw [fileArgs_planOf, List.getElem?_map, same] at argument
    obtain rfl := Option.some.inj argument
    refine ⟨Path.text_absolutize_namedFrom (Path.normal_absolutize _ _) (rooted _) settled onward, fun text => ?_⟩
    have written : Path.ofString ((c.workspaceDir.absolutize base).namedFrom file).text =
        (c.workspaceDir.absolutize base).namedFrom file := text.repaired_eq_self
    have leads := Path.absolutize_namedFrom (Path.normal_absolutize _ _) (rooted c.workspaceDir) settled onward
    exact (congrArg (Path.absolutize · _) written).trans leads
  · exact isAbsolute_of_mem_discover below (rooted _) found (covers.compile.subset listed)
  · rw [fileArgs_planOf]
    rfl

/-! ## Files inside and outside -/

/-- A file below the proto directory, and one that only starts out there. -/
def strayFiles : List (Path × Text.Bytes) :=
  [MemoryFiles.textFile "/w/p/a.proto" "", MemoryFiles.textFile "/w/p/../../x/b.proto" ""]

def strayTree : MemoryFiles := MemoryFiles.ofFiles (.ofString "/") strayFiles

def strayConfig : Config := (ofPaths "/w/p" "/w" "/out" []).withoutDetection

theorem stages_strayConfig :
    strayConfig.validate strayTree = .ok (strayConfig.resolvePaths (.ofString "/")) ∧
      discover strayTree (.ofString "/w/p") = .ok [.ofString "/w/p/a.proto", .ofString "/x/b.proto"] :=
  stages_ofFiles rfl rfl (MemoryFiles.isDir_ofFiles rfl (by decide))
    (MemoryFiles.isDir_ofFiles rfl (by decide)) (by decide) (by decide +kernel) (by decide +kernel)
    (by decide)

theorem gives_strayConfig :
    ∃ p, strayConfig.Gives strayTree p ∧ p.fileArgs = ["p/a.proto", "/x/b.proto"] ∧
      p.compileSet = [.ofString "/w/p/a.proto", .ofString "/x/b.proto"] ∧ p.primaryRoot = .ofString "/w" := by
  have plans : strayConfig.Plans strayTree strayConfig.protoc _ :=
    ⟨_, _, stages_strayConfig.1, stages_strayConfig.2, by decide, rfl⟩
  refine ⟨_, .inl ⟨{}, plan_eq_ok.mpr plans⟩, ?_⟩
  rw [strayConfig, sourceSet_withoutDetection]
  exact ⟨by decide +kernel, by decide, by decide⟩

/-- The file inside the primary root is named relative to it, and the other one by its absolute path. -/
theorem args_of_gives_stray :
    ∃ p, strayConfig.Gives strayTree p ∧ p.fileArgs = ["p/a.proto", "/x/b.proto"] ∧
      (Path.ofString "p/a.proto").absolutize p.workingDir = .ofString "/w/p/a.proto" ∧
      (Path.ofString "/x/b.proto").absolutize p.workingDir = .ofString "/x/b.proto" := by
  obtain ⟨p, gives, args, listed, root⟩ := gives_strayConfig
  obtain ⟨-, named, -⟩ := args_of_gives MemoryFiles.currentDir_ofFiles rfl gives
  refine ⟨p, gives, args, ?_, ?_⟩
  · refine (named 0 _ _ (by rw [args]; rfl) (by rw [listed]; rfl) (by decide)).2 ?_
    rw [root]
    decide +kernel
  · refine (named 1 _ _ (by rw [args]; rfl) (by rw [listed]; rfl) (by decide)).2 ?_
    rw [root]
    decide +kernel

/-! ## Arguments that name no listed file -/

/-- A file whose name is no text. -/
def latinTree : MemoryFiles := MemoryFiles.ofFiles (.ofString "/") [(.withByte "/w/p/a" 0xFF ".proto", [])]

/-- A file system that lists one relative path in every directory. -/
inductive Adrift where
  | adrift

instance : FileSystem Adrift where
  isFile _ _ := true
  isDir _ _ := true
  read _ _ := .ok []
  listFiles _ _ := .ok [.ofString "a.proto"]
  createDirAll fs _ := (.ok (), fs)
  currentDir _ := .ok (.ofString "/")

/-- A name that is no text is written as another one, and a relative file is looked for in the working directory. -/
theorem args_misnamed :
    (∃ p, strayConfig.Gives latinTree p ∧ p.fileArgs = ["p/a\uFFFD.proto"] ∧
      p.compileSet = [.withByte "/w/p/a" 0xFF ".proto"] ∧
      (Path.ofString "p/a\uFFFD.proto").absolutize p.workingDir ≠ .withByte "/w/p/a" 0xFF ".proto") ∧
    ∃ p, strayConfig.Gives Adrift.adrift p ∧ p.fileArgs = ["a.proto"] ∧ p.compileSet = [.ofString "a.proto"] ∧
      (Path.ofString "a.proto").absolutize p.workingDir ≠ .ofString "a.proto" := by
  constructor
  · obtain ⟨valid, found⟩ : strayConfig.validate latinTree = .ok (strayConfig.resolvePaths (.ofString "/")) ∧
        discover latinTree (.ofString "/w/p") = .ok [.withByte "/w/p/a" 0xFF ".proto"] :=
      stages_ofFiles rfl rfl (MemoryFiles.isDir_ofFiles rfl (by decide))
        (MemoryFiles.isDir_ofFiles rfl (by decide)) (by decide) (by decide +kernel)
        (by decide +kernel) (by decide)
    have plans : strayConfig.Plans latinTree strayConfig.protoc _ := ⟨_, _, valid, found, by decide, rfl⟩
    refine ⟨_, .inl ⟨{}, plan_eq_ok.mpr plans⟩, ?_⟩
    rw [strayConfig, sourceSet_withoutDetection]
    exact ⟨by decide +kernel, by decide, by decide⟩
  · have valid : strayConfig.validate Adrift.adrift = .ok (strayConfig.resolvePaths (.ofString "/")) := by
      have current : FileSystem.currentDir Adrift.adrift = .ok (.ofString "/") := rfl
      refine (validate_eq_ok_of_currentDir current).mpr ⟨rfl, ?_, rfl⟩
      exact directoryFault?_eq_none.mpr ⟨rfl, rfl, by decide⟩
    have found : discover Adrift.adrift (.ofString "/w/p") = .ok [.ofString "a.proto"] := by
      have proto : [Path.ofString "a.proto"].filter Path.isProtoFile = [.ofString "a.proto"] := by decide +kernel
      have settled : (Path.ofString "a.proto").normalize = .ofString "a.proto" := by decide
      refine discover_eq_ok.mpr ⟨_, rfl, ?_⟩
      rw [proto, List.map_singleton, settled]
      exact List.mergeSort_singleton _
    have plans : strayConfig.Plans Adrift.adrift strayConfig.protoc _ := ⟨_, _, valid, found, by decide, rfl⟩
    refine ⟨_, .inl ⟨{}, plan_eq_ok.mpr plans⟩, ?_⟩
    rw [strayConfig, sourceSet_withoutDetection]
    exact ⟨by decide +kernel, by decide +kernel, by decide +kernel⟩

end Config

end ProtoTree
