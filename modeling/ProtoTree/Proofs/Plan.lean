import ProtoTree.Compiler
import ProtoTree.Proofs.FileSystem.Listing
import ProtoTree.Proofs.SourceSet

/-! # How plans come about

A plan is made of validated paths, of the files discovered below them, and of
the source set that these resolve to.
-/

namespace ProtoTree.Config

variable {σ : Type} [FileSystem σ] {c : Config} {fs : σ}

theorem validate_eq_ok {paths : ResolvedPaths} :
    c.validate fs = .ok paths ↔ c.plainFault? = none ∧
      ∃ base, FileSystem.currentDir fs = .ok base ∧
        c.directoryFault? fs (c.resolvePaths base) = none ∧ c.resolvePaths base = paths := by
  rw [validate]
  cases c.plainFault? with
  | some fault => simp
  | none =>
      cases FileSystem.currentDir fs with
      | error e => simp
      | ok base =>
          simp only [Except.ok.injEq, exists_eq_left', true_and]
          cases c.directoryFault? fs (c.resolvePaths base) with
          | some fault => simp
          | none => simp

theorem validate_eq_ok_of_currentDir {base : Path} (current : FileSystem.currentDir fs = .ok base)
    {paths : ResolvedPaths} :
    c.validate fs = .ok paths ↔ c.plainFault? = none ∧
      c.directoryFault? fs (c.resolvePaths base) = none ∧ c.resolvePaths base = paths := by
  simp only [validate_eq_ok, current, Except.ok.injEq, exists_eq_left']

theorem directoryFault?_eq_none {paths : ResolvedPaths} :
    c.directoryFault? fs paths = none ↔ FileSystem.isDir fs paths.protoDir ∧
      FileSystem.isDir fs paths.workspaceDir ∧
      (paths.protoDir.relativeTo? paths.workspaceDir).isSome := by
  rw [directoryFault?]
  cases FileSystem.isDir fs paths.protoDir <;> cases FileSystem.isDir fs paths.workspaceDir <;>
    cases paths.protoDir.relativeTo? paths.workspaceDir <;> simp

theorem discoverIn_eq_ok {paths : ResolvedPaths} {files : List Path} :
    discoverIn fs paths = .ok files ↔ discover fs paths.protoDir = .ok files := by
  rw [discoverIn]
  cases discover fs paths.protoDir with
  | ok found => simp
  | error e => simp

theorem findFiles_eq_ok {files : List Path} :
    c.findFiles fs = .ok files ↔
      ∃ paths, c.validate fs = .ok paths ∧ discover fs paths.protoDir = .ok files := by
  rw [findFiles]
  cases c.validate fs with
  | error e => simp
  | ok paths => simp [discoverIn_eq_ok]

/-- The source set of some files. -/
def sourceSet (c : Config) (fs : σ) (paths : ResolvedPaths) (files : List Path) : SourceSet :=
  (c.sourceSetRequest paths).resolve fs files

/-- A plan for some program: from validated paths and the files below them, at least one. -/
def Plans (c : Config) (fs : σ) (program : String) (p : CompilePlan) : Prop :=
  ∃ paths files, c.validate fs = .ok paths ∧ discover fs paths.protoDir = .ok files ∧ files ≠ [] ∧
    c.planOf paths program (c.sourceSet fs paths files) = p

theorem buildPlan_eq_ok {clock : Stopwatch} {paths : ResolvedPaths} {program : String}
    {p : CompilePlan} :
    (c.buildPlan fs clock paths program).value = .ok p ↔
      ∃ files, discover fs paths.protoDir = .ok files ∧ files ≠ [] ∧
        c.planOf paths program (c.sourceSet fs paths files) = p := by
  simp only [← discoverIn_eq_ok, buildPlan]
  cases discoverIn fs paths with
  | error e => simp
  | ok files =>
      cases files with
      | nil => simp
      | cons file files => simp [sourceSet]

theorem plan_eq_ok {clock : Stopwatch} {p : CompilePlan} :
    (c.plan fs clock).value = .ok p ↔ c.Plans fs c.protoc p := by
  rw [plan, Plans]
  cases c.validate fs with
  | error e => simp
  | ok paths => simp [buildPlan_eq_ok]

theorem value_checkToolchain {locator : ToolLocator} :
    (c.checkToolchain locator).value = c.findToolchain locator := by
  rw [checkToolchain]
  cases c.findToolchain locator with
  | ok toolchain => rfl
  | error e => rfl

section OfFiles

open MemoryFiles

variable {root : Path} {files : List (Path × Text.Bytes)}

/-- A configuration over directories of given files is valid, and files given in path order are found. -/
theorem stages_ofFiles (absolute : root.isAbsolute) (plain : c.plainFault? = none)
    (protoDir : (ofFiles root files).isDir (c.protoDir.absolutize root))
    (workspaceDir : (ofFiles root files).isDir (c.workspaceDir.absolutize root))
    (within : ((c.protoDir.absolutize root).relativeTo? (c.workspaceDir.absolutize root)).isSome)
    {found : List Path}
    (given : (protosBelow root files (c.protoDir.absolutize root)).map Path.normalize = found)
    (distinct : ((protosBelow root files (c.protoDir.absolutize root)).map Path.components).Nodup)
    (ordered : found.Pairwise fun p q => p.le q) :
    c.validate (ofFiles root files) = .ok (c.resolvePaths root) ∧
      discover (ofFiles root files) (c.resolvePaths root).protoDir = .ok found := by
  subst given
  constructor
  · have fine : c.directoryFault? (ofFiles root files) (c.resolvePaths root) = none :=
      directoryFault?_eq_none.mpr ⟨protoDir, workspaceDir, within⟩
    exact (validate_eq_ok_of_currentDir currentDir_ofFiles).mpr ⟨plain, fine, rfl⟩
  · exact discover_ofFiles (Path.isAbsolute_absolutize absolute _) protoDir distinct ordered

/-! ## A small tree -/

/-- A workspace with two files, one of which imports the other. -/
def pairFiles : List (Path × Text.Bytes) :=
  [textFile "/w/p/a.proto" "import 'p/b.proto';", textFile "/w/p/b.proto" ""]

def pairTree : MemoryFiles := ofFiles (.ofString "/w") pairFiles

/-- The default configuration for some paths. -/
def ofPaths (protoDir workspaceDir outputDir : String) (protoPaths : List String) : Config :=
  ((Settings.ofEnvironment []).applyAll
    [.protoDir (.ofString protoDir), .workspaceDir (.ofString workspaceDir),
      .outputDir (.ofString outputDir), .protoPaths (protoPaths.map Path.ofString)]).build

def pairConfig : Config := ofPaths "p" "." "out" ["../l"]

theorem stages_pairConfig :
    pairConfig.validate pairTree = .ok (pairConfig.resolvePaths (.ofString "/w")) ∧
      discover pairTree (.ofString "/w/p") = .ok [.ofString "/w/p/a.proto", .ofString "/w/p/b.proto"] :=
  stages_ofFiles rfl rfl (isDir_ofFiles rfl (by decide)) (isDir_ofFiles rfl (by decide))
    (by decide) (by decide +kernel) (by decide +kernel) (by decide)

theorem exists_plan_pairConfig : ∃ p, (pairConfig.plan pairTree {}).value = .ok p :=
  ⟨_, plan_eq_ok.mpr ⟨_, _, stages_pairConfig.1, stages_pairConfig.2, by decide, rfl⟩⟩

end OfFiles

end ProtoTree.Config
