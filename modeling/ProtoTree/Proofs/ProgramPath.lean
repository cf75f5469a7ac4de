import ProtoTree.Proofs.Path.Ancestors
import ProtoTree.Proofs.Path.Relative
import ProtoTree.Proofs.Run

/-! # The program of a run

A compiler is looked for from the current directory, and it is started from the
primary root under the path that was found. A relative path leads to one place
from two directories only when it climbs out of both of them to one directory.
-/

namespace ProtoTree

/-! ## One path from two directories -/

namespace Path

open Component Trail

/-- The `..` parts that the normal form of a path starts with. -/
def climb (p : Path) : Path := ofComponents (p.normalize.components.takeWhile (· == .parent))

theorem along_parents (count : Nat) : along (List.replicate count .parent) = ⟨count, []⟩ := by
  induction count with
  | zero => rfl
  | succ count ih => rw [List.replicate_succ', along_concat, ih, step]

/-- A relative path climbs as far as following its parts does. -/
theorem climb_of_relative {p : Path} (relative : p.isAbsolute = false) :
    p.climb = ofComponents (List.replicate (along p.body).climbed .parent) := by
  have named := isName_of_mem_reverse p.body
  have stops : (along p.body).names.reverse.takeWhile (· == .parent) = [] := by
    cases below : (along p.body).names.reverse with
    | nil => rfl
    | cons c rest =>
        have isName := named c (below ▸ List.mem_cons_self)
        cases c with
        | name cs => rfl
        | root | current | parent => cases isName
  rw [climb, components_normalize, stack_of_relative relative, List.reverse_append, List.reverse_replicate,
    List.takeWhile_append_of_pos (by simp), stops, List.append_nil]

theorem isAbsolute_climb {p : Path} (relative : p.isAbsolute = false) : p.climb.isAbsolute = false := by
  rw [climb_of_relative relative]
  exact isAbsolute_ofComponents spelled_of_mem_parents

theorem along_climb {p : Path} (relative : p.isAbsolute = false) :
    along p.climb.body = ⟨(along p.body).climbed, []⟩ := by
  rw [climb_of_relative relative, body_ofComponents spelled_of_mem_parents, along_parents]

/-- A path leads to one place from two directories when it is absolute or its climb leads to one place. -/
theorem absolutize_eq_iff {dir other : Path} (absolute : dir.isAbsolute) (otherAbsolute : other.isAbsolute)
    (p : Path) :
    p.absolutize dir = p.absolutize other ↔
      p.isAbsolute ∨ p.climb.absolutize dir = p.climb.absolutize other := by
  cases rooted : p.isAbsolute with
  | true => simp [absolutize_of_absolute rooted]
  | false =>
      obtain ⟨names, clean, at_dir⟩ :=
        (normal_normalize dir).exists_names ((isAbsolute_normalize dir).trans absolute)
      obtain ⟨others, otherClean, at_other⟩ :=
        (normal_normalize other).exists_names ((isAbsolute_normalize other).trans otherAbsolute)
      have climbs := isAbsolute_climb rooted
      rw [absolutize_of_relative rooted, absolutize_of_relative rooted, absolutize_of_relative climbs,
        absolutize_of_relative climbs, at_dir, at_other, normalize_eq_iff, normalize_eq_iff,
        stack_rooted_join clean rooted, stack_rooted_join otherClean rooted,
        stack_rooted_join clean climbs, stack_rooted_join otherClean climbs, along_climb rooted]
      simp

end Path

namespace Config

variable {σ : Type} [FileSystem σ] {c : Config} {locator : ToolLocator} {fs : σ} {executor : Executor σ}
  {clock : Stopwatch}

/-- The compiler of a toolchain is what the locator finds under the configured name. -/
theorem find_of_findToolchain {toolchain : Toolchain} (tools : c.findToolchain locator = .ok toolchain) :
    locator.find c.protoc = some toolchain.protoc := by
  obtain ⟨found, -⟩ := Toolchain.find_eq_ok_iff.mp (findToolchain_eq_ok_iff.mp tools)
  exact found

/-- What a run has executed is the compiler that was found, from the primary root. -/
theorem program_of_mem_calls {i : Invocation} (called : i ∈ (c.compile locator executor fs clock).trace.calls) :
    ∃ paths, c.validate fs = .ok paths ∧ locator.find c.protoc = some i.program ∧
      i.workingDir = paths.workspaceDir := by
  rcases stops_or_prepared c locator fs with ⟨e, passed, left, stops⟩ | ⟨paths, toolchain, files, prepared⟩
  · rw [calls_compile, (shows_of_stops stops).calls] at called
    cases called
  · rw [calls_of_prepared executor clock prepared] at called
    obtain rfl := List.mem_singleton.mp called
    exact ⟨paths, prepared.valid, find_of_findToolchain prepared.tools, rfl⟩

/-- The program that is started is the one that was found just when it was found under an absolute path, or when
    climbing along its path leads from the primary root and from the current directory to one place. -/
theorem started_found_iff {base : Path} (current : FileSystem.currentDir fs = .ok base)
    (absolute : base.isAbsolute) {i : Invocation}
    (called : i ∈ (c.compile locator executor fs clock).trace.calls) :
    ∃ found, locator.find c.protoc = some found ∧ i.program = found ∧
      i.workingDir = c.workspaceDir.absolutize base ∧
      (i.program.absolutize i.workingDir = found.absolutize base ↔
        found.isAbsolute ∨ found.climb.absolutize i.workingDir = found.climb.absolutize base) := by
  obtain ⟨paths, valid, found, started⟩ := program_of_mem_calls called
  obtain ⟨-, -, rfl⟩ := (validate_eq_ok_of_currentDir current).mp valid
  have rooted : i.workingDir.isAbsolute := started ▸ Path.isAbsolute_absolutize absolute c.workspaceDir
  exact ⟨i.program, found, rfl, started, Path.absolutize_eq_iff rooted absolute i.program⟩

/-! ### A compiler beside the workspace -/

section Beside

open MemoryFiles

/-- A proto file in a workspace, and a compiler in a directory beside it. -/
def besideTree : MemoryFiles := ofFiles (.ofString "/h") [textFile "/h/w/a.proto" "", textFile "/h/t/protoc" ""]

/-- A configuration that names the compiler from the current directory. -/
def besideConfig : Config := { ofPaths "w" "w" "o" [] with plugins := ["cpp"], protoc := "./t/protoc" }

def besideLocator : ToolLocator := .overDirs besideTree [.ofString "/usr/bin"]

/-- An executor that is content with everything. -/
def contentExecutor : Executor MemoryFiles := fun left _ => (.ok ⟨"", some 0, true⟩, [], left)

theorem find_beside : besideLocator.find "./t/protoc" = some (.ofString "./t/protoc") := by
  have several : (Path.ofString "./t/protoc").components.length > 1 := by decide
  have present : FileSystem.isFile besideTree (.ofString "./t/protoc") := by
    rw [besideTree, isFile_eq]
    decide
  change (toolCandidates _ _).find? _ = _
  rw [toolCandidates, if_pos several, List.find?_cons_of_pos present]

theorem prepared_beside :
    ∃ toolchain, besideConfig.Prepared besideLocator besideTree (besideConfig.resolvePaths (.ofString "/h"))
      toolchain [.ofString "/h/w/a.proto"] := by
  have stages : besideConfig.validate besideTree = .ok (besideConfig.resolvePaths (.ofString "/h")) ∧
      discover besideTree (.ofString "/h/w") = .ok [.ofString "/h/w/a.proto"] :=
    stages_ofFiles rfl rfl (isDir_ofFiles rfl (by decide)) (isDir_ofFiles rfl (by decide))
      (by decide) (by decide +kernel) (by decide +kernel) (by decide)
  have tools : besideConfig.findToolchain besideLocator = .ok ⟨.ofString "./t/protoc", []⟩ := by
    rw [findToolchain, Toolchain.find, besideConfig, find_beside]
    rfl
  have free : besideTree.isFile (.ofString "/h/o") = false := by
    rw [besideTree, isFile_ofFiles]
    rfl
  refine ⟨_, stages.1, tools, stages.2, by decide, ?_⟩
  change (besideTree.createDirAll (.ofString "/h/o")).1 = .ok ()
  rw [createDirAll, free]
  rfl

/-- The compiler that was found beside the workspace is started from inside of it, where there is none. -/
theorem started_found_beside :
    ∃ i ∈ (besideConfig.compile besideLocator contentExecutor besideTree {}).trace.calls,
      besideLocator.find besideConfig.protoc = some i.program ∧ besideTree.isFile i.program ∧
        i.program.absolutize i.workingDir ≠ i.program.absolutize (.ofString "/h") ∧
        besideTree.isFile (i.program.absolutize i.workingDir) = false := by
  obtain ⟨toolchain, prepared⟩ := prepared_beside
  have calls := calls_of_prepared contentExecutor {} prepared
  have called := calls ▸ List.mem_singleton_self _
  obtain ⟨found, locates, program, started, same⟩ := started_found_iff currentDir_ofFiles rfl called
  obtain rfl := Option.some.inj (find_beside.symm.trans locates)
  have elsewhere : ¬ ((Path.ofString "./t/protoc").isAbsolute ∨
      (Path.ofString "./t/protoc").climb.absolutize (besideConfig.workspaceDir.absolutize (.ofString "/h")) =
        (Path.ofString "./t/protoc").climb.absolutize (.ofString "/h")) := by decide
  refine ⟨_, called, program ▸ locates, ?_, ?_, ?_⟩
  · rw [program, besideTree, isFile_ofFiles]
    rfl
  · rw [program]
    exact fun eq => elsewhere (started ▸ (program ▸ same).mp eq)
  · rw [program, started, besideTree, isFile_ofFiles]
    rfl

end Beside

end Config

end ProtoTree
