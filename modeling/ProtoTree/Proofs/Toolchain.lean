import ProtoTree.CommandLine.Run
import ProtoTree.Proofs.Discipline
import ProtoTree.Proofs.Path.Repaired

/-! # Searching for tools and reporting them

A search passes over the generators inside the compiler and ends at the first
tool that is missing; a report goes through all of them. Still the two agree: the
search succeeds just when nothing is missing from the report, and then it gives
the paths that the report has. Otherwise it names the first tool that is missing.
-/

namespace ProtoTree

namespace ToolStatus

theorem usable_iff {s : ToolStatus} : (!s.isMissing) ↔ s.builtin ∨ s.path.isSome := by
  simp [isMissing, Option.isSome_iff_ne_none]

theorem isMissing_iff {s : ToolStatus} : s.isMissing ↔ ¬(s.builtin ∨ s.path.isSome) := by
  rw [← usable_iff, Bool.not_eq_true', Bool.not_eq_false]

theorem ofPlugin_of_builtin {locator : ToolLocator} {plugin : Plugin} (inside : plugin.binary = none) :
    ofPlugin locator plugin = ⟨plugin.name, none, true⟩ := by
  simp only [ofPlugin, inside]

theorem ofPlugin_of_binary {locator : ToolLocator} {plugin : Plugin} {binary : String}
    (program : plugin.binary = some binary) :
    ofPlugin locator plugin = ⟨binary, locator.find binary, false⟩ := by
  simp only [ofPlugin, program, ofProgram]

end ToolStatus

namespace Toolchain

variable {locator : ToolLocator} {program : String} {plugins : List Plugin}

/-! ## Generators -/

/-- Each generator with its status. -/
def reported (locator : ToolLocator) (plugins : List Plugin) : List (Plugin × ToolStatus) :=
  plugins.map fun plugin => (plugin, .ofPlugin locator plugin)

theorem findPlugins_cons_of_builtin {plugin : Plugin} (inside : plugin.binary = none) (rest : List Plugin) :
    findPlugins locator (plugin :: rest) = findPlugins locator rest := by
  rw [findPlugins, inside]

theorem findPlugins_cons_of_missing {plugin : Plugin} {binary : String} (program : plugin.binary = some binary)
    (missing : locator.find binary = none) (rest : List Plugin) :
    findPlugins locator (plugin :: rest) = .error (.pluginNotFound plugin.name binary) := by
  simp only [findPlugins, program, missing]

theorem findPlugins_cons_of_found {plugin : Plugin} {binary : String} {path : Path}
    (program : plugin.binary = some binary) (there : locator.find binary = some path) (rest : List Plugin) :
    findPlugins locator (plugin :: rest) = (findPlugins locator rest).map ((plugin.name, path) :: ·) := by
  simp only [findPlugins, program, there]
  cases findPlugins locator rest <;> rfl

/-- The search for generators fails with the first one that the report misses. -/
theorem findPlugins_eq_error_iff {e : ToolchainError} :
    findPlugins locator plugins = .error e ↔
      ∃ entry, (reported locator plugins).find? (fun entry => entry.2.isMissing) = some entry ∧
        e = .pluginNotFound entry.1.name entry.2.name := by
  induction plugins with
  | nil => simp [findPlugins, reported]
  | cons plugin rest ih =>
      rw [reported, List.map_cons, ← reported, List.find?_cons]
      cases binary : plugin.binary with
      | none =>
          rw [findPlugins_cons_of_builtin binary, ToolStatus.ofPlugin_of_builtin binary]
          exact ih
      | some program =>
          rw [ToolStatus.ofPlugin_of_binary binary]
          cases found : locator.find program with
          | none =>
              rw [findPlugins_cons_of_missing binary found]
              simp [ToolStatus.isMissing, eq_comm]
          | some path =>
              rw [findPlugins_cons_of_found binary found]
              refine Iff.trans ?_ ih
              cases findPlugins locator rest <;> simp [Except.map]

/-- What the search for generators gives are the paths of those that are programs, as the report has them. -/
theorem findPlugins_eq_ok_iff {found : List (String × Path)} :
    findPlugins locator plugins = .ok found ↔
      found.map (Prod.map id some) =
        ((reported locator plugins).filter fun entry => !entry.1.isBuiltin).map fun entry =>
          (entry.1.name, entry.2.path) := by
  induction plugins generalizing found with
  | nil => simp [findPlugins, reported, eq_comm (a := [])]
  | cons plugin rest ih =>
      rw [reported, List.map_cons, ← reported, List.filter_cons]
      cases binary : plugin.binary with
      | none =>
          have inside : plugin.isBuiltin = true := by rw [Plugin.isBuiltin, binary]; rfl
          rw [findPlugins_cons_of_builtin binary, inside]
          exact ih
      | some program =>
          have outside : plugin.isBuiltin = false := by rw [Plugin.isBuiltin, binary]; rfl
          rw [ToolStatus.ofPlugin_of_binary binary, outside, Bool.not_false, if_pos rfl, List.map_cons]
          cases there : locator.find program with
          | none =>
              rw [findPlugins_cons_of_missing binary there]
              cases found <;> simp [Prod.ext_iff]
          | some path =>
              rw [findPlugins_cons_of_found binary there]
              cases found with
              | nil => cases findPlugins locator rest <;> simp [Except.map]
              | cons first others =>
                  rw [List.map_cons, List.cons.injEq, ← ih]
                  obtain ⟨name, place⟩ := first
                  cases findPlugins locator rest <;> simp [Except.map, eq_comm]

theorem exists_findPlugins_iff :
    (∃ found, findPlugins locator plugins = .ok found) ↔
      ∀ plugin ∈ plugins, ¬(ToolStatus.ofPlugin locator plugin).isMissing := by
  have none_missing : (reported locator plugins).find? (fun entry => entry.2.isMissing) = none ↔
      ∀ plugin ∈ plugins, ¬(ToolStatus.ofPlugin locator plugin).isMissing := by
    rw [List.find?_eq_none, reported, List.forall_mem_map]
  rw [← none_missing]
  cases search : findPlugins locator plugins with
  | error e =>
      obtain ⟨entry, first, -⟩ := findPlugins_eq_error_iff.mp search
      simp [first]
  | ok found =>
      refine iff_of_true ⟨found, rfl⟩ (Option.eq_none_iff_forall_ne_some.mpr fun entry first => ?_)
      cases search.symm.trans (findPlugins_eq_error_iff.mpr ⟨entry, first, rfl⟩)

/-! ## The whole search -/

theorem find_eq_error_iff {e : ToolchainError} :
    find locator program plugins = .error e ↔
      locator.find program = none ∧ e = .protocNotFound program ∨
        (locator.find program).isSome ∧ findPlugins locator plugins = .error e := by
  rw [find]
  cases locator.find program with
  | none => simp [eq_comm]
  | some path => cases findPlugins locator plugins <;> simp

theorem exists_find_iff :
    (∃ t, find locator program plugins = .ok t) ↔
      ∀ s ∈ ToolStatus.check locator program plugins, ¬s.isMissing := by
  have protoc : ¬(ToolStatus.ofProgram locator program).isMissing ↔ ∃ path, locator.find program = some path := by
    simp [ToolStatus.isMissing, ToolStatus.ofProgram, Option.ne_none_iff_exists']
  rw [ToolStatus.check, List.forall_mem_cons, List.forall_mem_map, protoc, ← exists_findPlugins_iff]
  simp only [find_eq_ok_iff]
  constructor
  · rintro ⟨t, path, found⟩
    exact ⟨⟨_, path⟩, _, found⟩
  · rintro ⟨⟨path, there⟩, found, search⟩
    exact ⟨⟨path, found⟩, there, search⟩

/-- Whether a search for the compiler and some generators ends as their statuses tell: `first` is that of the compiler,
    `rest` has those of the generators in their order. -/
structure EndsAsReported (program : String) (plugins : List Plugin) (first : ToolStatus) (rest : List ToolStatus)
    (search : Except ToolchainError Toolchain) : Prop where
  succeeds : (∃ t, search = .ok t) ↔ ∀ s ∈ first :: rest, s.builtin ∨ s.path.isSome
  /-- A search that succeeds gives the paths of the statuses. -/
  gives : ∀ t, search = .ok t → first.path = some t.protoc ∧
    t.plugins.map (Prod.map id some) =
      ((plugins.zip rest).filter fun entry => !entry.1.isBuiltin).map fun entry => (entry.1.name, entry.2.path)
  /-- A search that fails names the compiler when that is missing, and otherwise the first generator that is. -/
  fails : ∀ e, search = .error e ↔
    first.path = none ∧ e = .protocNotFound program ∨
      first.path.isSome ∧ ∃ earlier plugin status later, plugins.zip rest = earlier ++ (plugin, status) :: later ∧
        (∀ entry ∈ earlier, entry.2.builtin ∨ entry.2.path.isSome) ∧ ¬(status.builtin ∨ status.path.isSome) ∧
        e = .pluginNotFound plugin.name status.name

theorem zip_ofPlugin (locator : ToolLocator) (plugins : List Plugin) :
    plugins.zip (plugins.map (ToolStatus.ofPlugin locator)) = reported locator plugins :=
  List.map_prod_left_eq_zip.symm

theorem endsAsReported (locator : ToolLocator) (program : String) (plugins : List Plugin) :
    EndsAsReported program plugins (.ofProgram locator program) (plugins.map (.ofPlugin locator))
      (find locator program plugins) := by
  constructor
  case succeeds =>
    simp only [exists_find_iff, ToolStatus.isMissing_iff, not_not]
    rfl
  case gives =>
    intro t found
    obtain ⟨protoc, generators⟩ := find_eq_ok_iff.mp found
    rw [zip_ofPlugin]
    exact ⟨protoc, findPlugins_eq_ok_iff.mp generators⟩
  case fails =>
    intro e
    rw [find_eq_error_iff, findPlugins_eq_error_iff, zip_ofPlugin]
    refine or_congr Iff.rfl (and_congr Iff.rfl ?_)
    constructor
    · rintro ⟨⟨plugin, status⟩, first, rfl⟩
      obtain ⟨missing, earlier, later, split, usable⟩ := List.find?_eq_some_iff_append.mp first
      refine ⟨earlier, plugin, status, later, split, fun entry member => ?_, ToolStatus.isMissing_iff.mp missing, rfl⟩
      exact ToolStatus.usable_iff.mp (usable entry member)
    · rintro ⟨earlier, plugin, status, later, split, usable, missing, rfl⟩
      refine ⟨(plugin, status), List.find?_eq_some_iff_append.mpr ?_, rfl⟩
      exact ⟨ToolStatus.isMissing_iff.mpr missing, earlier, later, split, fun entry member =>
        ToolStatus.usable_iff.mpr (usable entry member)⟩

end Toolchain

/-! ## Checks and runs -/

namespace Config

variable {σ : Type} [FileSystem σ] {c : Config} {locator : ToolLocator} {fs : σ}

/-- How many of the tools that a configuration needs are missing. -/
def missingTools (c : Config) (locator : ToolLocator) : Nat := (c.toolStatuses locator).countP ToolStatus.isMissing

theorem missingTools_eq_zero_iff : c.missingTools locator = 0 ↔ ∃ t, c.findToolchain locator = .ok t := by
  simp only [findToolchain_eq_ok_iff]
  rw [Toolchain.exists_find_iff, missingTools, List.countP_eq_zero]
  rfl

theorem missingTools_congr {asked : Config} (program : asked.protoc = c.protoc) (plugins : asked.plugins = c.plugins) :
    asked.missingTools locator = c.missingTools locator := by
  have generators (c : Config) : c.pluginList = (ImportGraph.distinctBy id c.plugins).map Plugin.ofName := by
    simp [pluginList, pluginOutputs]
  rw [missingTools, missingTools, toolStatuses, toolStatuses, generators, generators, program, plugins]

/-- A search path is text, and so is every place in it where a tool is found. -/
theorem isText_of_find {w : Workplace σ} {tool : String} {place : Path} (found : w.locator.find tool = some place) :
    place.IsText := by
  have candidate : place ∈ toolCandidates (((w.env.lookup "PATH").map splitSearchPath).getD []) (.ofString tool) :=
    List.mem_of_find?_eq_some found
  rw [toolCandidates] at candidate
  split at candidate
  · rw [List.mem_singleton.mp candidate]
    exact Path.isText_ofString tool
  · obtain ⟨dir, member, rfl⟩ := List.mem_map.mp candidate
    refine Path.IsText.join ?_ (Path.isText_ofString tool)
    cases text : w.env.lookup "PATH" with
    | none => simp [text] at member
    | some text =>
        simp only [splitSearchPath, text, Option.map_some, Option.getD_some, List.mem_map] at member
        obtain ⟨part, -, rfl⟩ := member
        exact Path.isText_ofString (String.ofList part)

theorem exists_report (w : Workplace σ) (format : ReportFormat) :
    ∃ report, Report.tools format (c.toolStatuses w.locator) = .ok report := by
  have text : ((c.toolStatuses w.locator).filterMap (·.path)).all Path.isUtf8 := by
    rw [List.all_eq_true]
    intro place member
    obtain ⟨status, listed, at_place⟩ := List.mem_filterMap.mp member
    rw [Path.isUtf8_iff]
    rcases List.mem_cons.mp listed with rfl | generator
    · exact isText_of_find at_place
    · obtain ⟨plugin, -, rfl⟩ := List.mem_map.mp generator
      rw [ToolStatus.ofPlugin] at at_place
      split at at_place
      · exact isText_of_find at_place
      · cases at_place
  cases format <;> simp [Report.tools, Report.write, text]

theorem exit_check {w : Workplace σ} {log : LogSetup} {format : ReportFormat} :
    (Request.check w log format c).exit = .ok ↔ c.missingTools w.locator = 0 := by
  obtain ⟨report, written⟩ := c.exists_report w format
  simp only [Request.check, missingTools, written]
  split
  · next some => simp [Nat.ne_of_gt some]
  · next none => simpa using none

/-- A run of a valid configuration never fails for want of a tool just when the search for its tools succeeds. -/
theorem never_lacks_tool_iff {paths : ResolvedPaths} (valid : c.validate fs = .ok paths) {executor : Executor σ}
    {clock : Stopwatch} :
    (∀ e, (c.compile locator executor fs clock).result ≠ .error (.toolchain e)) ↔
      ∃ t, c.findToolchain locator = .ok t := by
  cases tools : c.findToolchain locator with
  | error e =>
      obtain ⟨missing, rfl⟩ := findToolchain_error tools
      exact iff_of_false (fun never => never missing (shows_of_stops (.toolMissing valid tools)).result) (by simp)
  | ok toolchain =>
      refine iff_of_true (fun e failed => ?_) ⟨toolchain, rfl⟩
      rcases stops_or_prepared c locator fs with ⟨cause, passed, left, stops⟩ | ⟨paths, toolchain, files, prepared⟩
      · obtain rfl := Except.error.inj (failed.symm.trans (shows_of_stops stops).result)
        cases stops with
        | toolMissing _ missing => cases missing.symm.trans tools
      · obtain ⟨p, i, -, concluded⟩ :=
          @concludes_of_prepared _ _ c locator fs paths toolchain files executor clock prepared
        exact not_isEarly_of_concludes (concluded.symm.trans failed) trivial

end Config

namespace Toolchain

/-- A search for tools ends as a report on them tells. So a check finds nothing missing just when a run with the same
    compiler and the same generators gets past its search for tools. -/
theorem search_as_reported (locator : ToolLocator) (program : String) (plugins : List Plugin) :
    (∃ first rest, ToolStatus.check locator program plugins = first :: rest ∧ rest.length = plugins.length ∧
      EndsAsReported program plugins first rest (find locator program plugins)) ∧
    ∀ (σ : Type) [FileSystem σ] (w : Workplace σ) (log : LogSetup) (format : ReportFormat) (asked c : Config),
      asked.protoc = c.protoc → asked.plugins = c.plugins →
        ((Request.check w log format asked).exit = .ok ↔ asked.missingTools w.locator = 0) ∧
        (asked.missingTools w.locator = 0 ↔ ∃ t, (c.checkToolchain w.locator).value = .ok t) ∧
        ∀ paths, c.validate w.files = .ok paths → ∀ (executor : Executor σ) (clock : Stopwatch),
          (asked.missingTools w.locator = 0 ↔
            ∀ e, (c.compile w.locator executor w.files clock).result ≠ .error (.toolchain e)) := by
  constructor
  · exact ⟨_, _, rfl, List.length_map _, endsAsReported locator program plugins⟩
  · intro σ _ w log format asked c sameProgram samePlugins
    have same : asked.missingTools w.locator = 0 ↔ ∃ t, c.findToolchain w.locator = .ok t := by
      rw [Config.missingTools_congr sameProgram samePlugins, Config.missingTools_eq_zero_iff]
    refine ⟨Config.exit_check, ?_, fun paths valid executor clock => ?_⟩
    · rwa [Config.value_checkToolchain]
    · exact same.trans (Config.never_lacks_tool_iff valid).symm

/-! ### A generator that is missing -/

section Shelf

open MemoryFiles

def shelfFiles : List (Path × Text.Bytes) :=
  [textFile "/w/a.proto" "", textFile "/b/protoc" "", textFile "/b/protoc-gen-go" ""]

/-- A workspace, and a search path with the compiler and one generator in it. -/
def shelf : Workplace MemoryFiles where
  env := [("PATH", "/a:/b")]
  files := ofFiles (.ofString "/w") shelfFiles
  executor _ left _ := (.ok ⟨"", some 0, true⟩, [], left)

/-- Generators of which one is missing, one is part of the compiler, and one is asked for twice. -/
def wanted : List String := ["go", "cpp", "go-grpc", "go"]

def shelfConfig : Config := { Config.ofPaths "." "." "o" [] with plugins := wanted }

/-- The check misses one tool, and a run fails for want of it. -/
theorem search_as_reported_shelf :
    (Request.check shelf {} .json (checkSettings shelf.env wanted none).build).exit ≠ .ok ∧
      find shelf.locator "protoc" shelfConfig.pluginList = .error (.pluginNotFound "go-grpc" "protoc-gen-go-grpc") ∧
      ∃ e, (shelfConfig.compile shelf.locator (shelf.executor none) shelf.files {}).result = .error (.toolchain e) := by
  have finds : shelf.locator.find = fun tool => (toolCandidates [.ofString "/a", .ofString "/b"] (.ofString tool)).find?
      fun p => (lastAdded? (.ofString "/w") shelfFiles p).isSome := by
    funext tool
    change (toolCandidates _ _).find? (FileSystem.isFile (ofFiles _ _)) = _
    rw [isFile_eq]
    rfl
  have locates : shelf.locator = ⟨_, shelf.locator.records⟩ := congrArg (ToolLocator.mk · _) finds
  have missing : (checkSettings shelf.env wanted none).build.missingTools shelf.locator = 1 := by
    rw [locates]
    decide
  have valid : shelfConfig.validate shelf.files = .ok (shelfConfig.resolvePaths (.ofString "/w")) := by
    refine (Config.validate_eq_ok_of_currentDir currentDir_ofFiles).mpr ⟨rfl, ?_, rfl⟩
    have directory : (ofFiles (.ofString "/w") shelfFiles).isDir (.ofString "/w") := isDir_ofFiles rfl (by decide)
    exact Config.directoryFault?_eq_none.mpr ⟨directory, directory, by decide⟩
  obtain ⟨-, agrees⟩ := search_as_reported shelf.locator "protoc" shelfConfig.pluginList
  obtain ⟨exit, -, runs⟩ :=
    agrees _ shelf {} .json (checkSettings shelf.env wanted none).build shelfConfig rfl rfl
  have fails := not_congr (runs _ valid (shelf.executor none) {})
  refine ⟨fun ok => ?_, ?_, ?_⟩
  · rw [exit.mp ok] at missing
    cases missing
  · rw [locates]
    rfl
  · have lacks := fails.mp (by rw [missing]; decide)
    simpa using lacks

end Shelf

end Toolchain

end ProtoTree
