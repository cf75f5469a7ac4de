import ProtoTree.Proofs.Arguments
import ProtoTree.Proofs.ExactDiscovery

/-! # Reading arguments back

The roots of a plan can be read off the front of its arguments, and its outputs
start with a dash. A file argument starts with one just when the path that it
spells starts with a name that does, so the outputs end where the files begin as
long as the first listed file has no such path.
-/

namespace ProtoTree

/-! ## What a path spells from a directory -/

namespace Path

/-- The components of a path below a directory, or all of them outside of it. -/
def partsFrom (p root : Path) : List Component :=
  (root.components.isPrefixOf? p.components).getD p.components

/-- The byte in front of a flag. -/
def dash : UInt8 := 0x2D

/-- Whether what a path spells from a directory starts with a name that starts with a dash. -/
def LeadsWithDash (p root : Path) : Prop := ∃ bytes rest, p.partsFrom root = .name (dash :: bytes) :: rest

theorem mem_of_mem_partsFrom {p root : Path} {c : Component} (member : c ∈ p.partsFrom root) :
    c ∈ p.components := by
  rw [partsFrom] at member
  cases below : root.components.isPrefixOf? p.components with
  | none => rwa [below] at member
  | some parts =>
      rw [below] at member
      have split := List.isPrefixOf?_eq_some_iff_append_eq.mp below
      exact split ▸ List.mem_append_right _ member

/-- The name of a file is the last of the parts from a directory, unless there are none. -/
theorem name_mem_partsFrom {p : Path} {name : Text.Bytes} (named : p.fileName? = some name) {root : Path}
    (filled : p.partsFrom root ≠ []) : .name name ∈ p.partsFrom root := by
  obtain ⟨front, last⟩ := fileName?_eq_some.mp named
  rw [partsFrom] at filled ⊢
  cases below : root.components.isPrefixOf? p.components with
  | none =>
      rw [Option.getD_none, last]
      exact List.mem_append_right _ List.mem_cons_self
  | some parts =>
      rw [below, Option.getD_some] at filled
      have split := congrArg List.getLast? (List.isPrefixOf?_eq_some_iff_append_eq.mp below)
      rw [last, List.getLast?_concat, List.getLast?_append_of_ne_nil _ filled] at split
      exact List.mem_of_getLast? split

end Path

/-- Whether an argument starts with a dash. -/
def isFlag (arg : String) : Bool := arg.toList.head? == some '-'

/-- A path is written with a dash in front just when it is spelled so. -/
theorem isFlag_text (p : Path) : isFlag p.text ↔ p.bytes.head? = some Path.dash := by
  rw [isFlag, beq_iff_eq, Path.text, Text.decodeText, String.toList_ofList]
  exact Text.head?_decodeLossy (by decide : Path.dash < 0x80) (by decide) p.bytes

namespace CommandRequest

variable {r : CommandRequest} {file : Path}

/-- A file argument spells the components of its file from the primary root. -/
theorem fileArg_eq (normal : file.Normal) :
    r.fileArg file = (Path.ofComponents (file.partsFrom r.primaryRoot)).text := by
  rw [fileArg, Path.relativeTo?, Path.partsFrom]
  cases r.primaryRoot.components.isPrefixOf? file.components with
  | some parts => rfl
  | none => exact congrArg Path.text normal.2

theorem isFlag_fileArg (normal : file.Normal) :
    isFlag (r.fileArg file) ↔ file.LeadsWithDash r.primaryRoot := by
  rw [fileArg_eq normal, isFlag_text, Path.ofComponents, Path.LeadsWithDash]
  cases parts : file.partsFrom r.primaryRoot with
  | nil => simp [Path.joinComponents]
  | cons c rest =>
      have member : c ∈ file.components :=
        Path.mem_of_mem_partsFrom (parts ▸ List.mem_cons_self : c ∈ file.partsFrom r.primaryRoot)
      rw [Path.head?_joinComponents (Path.bytes_ne_nil_of_mem member)]
      cases c with
      | root | current | parent => simp [Component.bytes, Path.slash, Path.dot, Path.dash]
      | name bytes =>
          cases bytes with
          | nil => simp [Component.bytes]
          | cons first bytes => simp [Component.bytes]

/-- No proto file is taken for an include flag. -/
theorem fileArg_ne_include (normal : file.Normal) (proto : file.isProtoFile) : r.fileArg file ≠ "-I" := by
  obtain ⟨front, stem, ending, last, letters⟩ := Path.isProtoFile_iff_endsInProto.mp proto
  have named : file.fileName? = some (stem ++ Text.encode ending) := Path.fileName?_eq_some.mpr ⟨front, last⟩
  have long : 6 ≤ (stem ++ Text.encode ending).length := by
    have six : ending.length = 6 := letters.length_eq
    have shorter := Text.length_le_encode ending
    rw [List.length_append]
    omega
  intro same
  rw [fileArg_eq normal] at same
  -- what is read as the two characters of the flag are their two bytes
  have spelled : Path.joinComponents (file.partsFrom r.primaryRoot) = [Path.dash, 0x49] := by
    have repaired : Text.repaired (Path.ofComponents (file.partsFrom r.primaryRoot)).bytes = [Path.dash, 0x49] := by
      rw [← Path.bytes_repaired, Path.repaired, same]
      decide
    refine (Text.repaired_cons_eq_iff (by decide) (by decide) fun _ => ?_).mp repaired
    exact Text.repaired_cons_eq_iff (by decide) (by decide) fun _ => Text.repaired_eq_nil
  by_cases empty : file.partsFrom r.primaryRoot = []
  · rw [empty] at spelled
    cases spelled
  · have shorter := Path.length_bytes_le (Path.name_mem_partsFrom named empty) rfl
    rw [spelled] at shorter
    exact absurd (long.trans shorter) (by decide)

end CommandRequest

/-! ## Reading from the left -/

/-- The roots at the front of some arguments, each behind an include flag, and the arguments behind them. -/
def takeRoots : List String → List String × List String
  | flag :: root :: rest =>
    if flag = "-I" then (root :: (takeRoots rest).1, (takeRoots rest).2) else ([], flag :: root :: rest)
  | args => ([], args)

/-- What is read off some arguments. -/
structure ArgumentReading where
  roots : List String
  outputs : List String
  files : List String
  deriving DecidableEq, Repr

/-- Roots as long as there are include flags, then outputs as long as there are dashes, then files. -/
def readArgs (args : List String) : ArgumentReading where
  roots := (takeRoots args).1
  outputs := (takeRoots args).2.takeWhile isFlag
  files := (takeRoots args).2.dropWhile isFlag

/-- Roots that are written behind include flags are read back, up to where no flag follows. -/
theorem takeRoots_append (roots : List Path) {rest : List String} (stop : rest.head? ≠ some "-I") :
    takeRoots ((roots.flatMap fun root => ["-I", root.text]) ++ rest) = (roots.map Path.text, rest) := by
  induction roots with
  | nil =>
      cases rest with
      | nil => rfl
      | cons first rest =>
          cases rest with
          | nil => rfl
          | cons next rest =>
              have other : first ≠ "-I" := fun same => stop (congrArg some same)
              simp [takeRoots, other]
  | cons root roots ih => simp [takeRoots, ih]

/-- The outputs are read apart from the files unless a file follows with a dash. -/
theorem readArgs_eq_iff {args roots outputs files : List String}
    (front : takeRoots args = (roots, outputs ++ files)) (flags : ∀ output ∈ outputs, isFlag output) :
    readArgs args = ⟨roots, outputs, files⟩ ↔ ∀ file ∈ files.head?, ¬ isFlag file := by
  rw [readArgs, front, List.takeWhile_append_of_pos flags, List.dropWhile_append_of_pos flags]
  cases files with
  | nil => simp
  | cons file files =>
      cases dash : isFlag file with
      | true => simp [dash]
      | false => simp [dash]

theorem outputArg_toList (plugin : Plugin) (options : List String) (outputDir : String) :
    ∃ rest, (plugin.outputArg options outputDir).toList = '-' :: '-' :: rest := by
  simp only [Plugin.outputArg, String.toList_append]
  exact ⟨_, rfl⟩

namespace Config

variable {σ : Type} [FileSystem σ] {c : Config} {fs : σ}

/-- The output arguments of a plan, one for each generator. -/
def outputArgs (c : Config) (p : CompilePlan) : List String :=
  c.pluginOutputs.map fun o => o.plugin.outputArg o.options p.outputDir.text

theorem toList_of_mem_outputArgs {p : CompilePlan} {output : String} (member : output ∈ c.outputArgs p) :
    ∃ rest, output.toList = '-' :: '-' :: rest := by
  obtain ⟨o, -, rfl⟩ := List.mem_map.mp member
  exact outputArg_toList o.plugin o.options p.outputDir.text

theorem isFlag_of_mem_outputArgs {p : CompilePlan} {output : String} (member : output ∈ c.outputArgs p) :
    isFlag output := by
  obtain ⟨rest, dashes⟩ := toList_of_mem_outputArgs member
  rw [isFlag, dashes]
  rfl

theorem args_planOf (paths : ResolvedPaths) (program : String) (s : SourceSet) :
    (c.planOf paths program s).args =
      ((c.planOf paths program s).roots.flatMap fun root => ["-I", root.text]) ++
        (c.outputArgs (c.planOf paths program s) ++ (c.planOf paths program s).fileArgs) := by
  rw [fileArgs_planOf, ← List.append_assoc]
  rfl

/-- Behind the roots of a plan for proto files no include flag follows. -/
theorem head?_ne_include {paths : ResolvedPaths} {program : String} {s : SourceSet}
    (listed : ∀ file ∈ s.inclusion.compile, file.Normal ∧ file.isProtoFile) :
    (c.outputArgs (c.planOf paths program s) ++ (c.planOf paths program s).fileArgs).head? ≠ some "-I" := by
  cases outputs : c.outputArgs (c.planOf paths program s) with
  | cons output rest =>
      have member : output ∈ c.outputArgs (c.planOf paths program s) := outputs ▸ List.mem_cons_self
      obtain ⟨rest, dashes⟩ := toList_of_mem_outputArgs member
      intro same
      rw [Option.some.inj same] at dashes
      exact absurd (List.cons.inj (List.cons.inj dashes).2).1 (by decide)
  | nil =>
      rw [fileArgs_planOf, List.nil_append]
      cases files : s.inclusion.compile with
      | nil => simp
      | cons file rest =>
          obtain ⟨normal, proto⟩ := listed file (files ▸ List.mem_cons_self)
          exact fun same => CommandRequest.fileArg_ne_include normal proto (Option.some.inj same)

/-- A plan's arguments are read back as its roots, its outputs and its files, unless the first listed file leads
    with a dash. Which files do is told by their paths. -/
theorem readArgs_of_gives {p : CompilePlan} (gives : c.Gives fs p) :
    takeRoots p.args = (p.roots.map Path.text, c.outputArgs p ++ p.fileArgs) ∧
      (∀ output ∈ c.outputArgs p, isFlag output) ∧
      List.Forall₂ (fun arg file => isFlag arg ↔ Path.LeadsWithDash file p.primaryRoot)
        p.fileArgs p.compileSet ∧
      (readArgs p.args = ⟨p.roots.map Path.text, c.outputArgs p, p.fileArgs⟩ ↔
        ∀ file ∈ p.compileSet.head?, ¬ file.LeadsWithDash p.primaryRoot) := by
  obtain ⟨program, paths, files, valid, found, -, rfl⟩ := gives.plans
  have covers := (c.sourceSetRequest paths).covers_resolve fs files
  have listed : ∀ file ∈ (c.sourceSet fs paths files).inclusion.compile, file.Normal ∧ file.isProtoFile := by
    intro file member
    have discovered := covers.compile.subset member
    obtain ⟨-, -, q, -, proto, rfl⟩ := (mem_discover found).mp discovered
    exact ⟨Path.normal_normalize q, Path.isProtoFile_normalize proto⟩
  generalize c.sourceSet fs paths files = s at listed ⊢
  have flags : ∀ output ∈ c.outputArgs (c.planOf paths program s), isFlag output :=
    fun output => isFlag_of_mem_outputArgs
  have named : List.Forall₂ (fun arg file => isFlag arg ↔ Path.LeadsWithDash file paths.workspaceDir)
      (c.planOf paths program s).fileArgs (c.planOf paths program s).compileSet := by
    rw [fileArgs_planOf, List.forall₂_map_left_iff]
    exact List.forall₂_same.mpr fun file member => CommandRequest.isFlag_fileArg (listed file member).1
  have front : takeRoots (c.planOf paths program s).args = _ :=
    (congrArg takeRoots (args_planOf paths program s)).trans (takeRoots_append _ (head?_ne_include listed))
  refine ⟨front, flags, named, ?_⟩
  rw [readArgs_eq_iff front flags]
  change _ ↔ ∀ file ∈ _, ¬ Path.LeadsWithDash file paths.workspaceDir
  generalize (c.planOf paths program s).fileArgs = args at named ⊢
  generalize (c.planOf paths program s).compileSet = files at named ⊢
  cases named with
  | nil => simp
  | cons first _ => simpa using not_congr first

/-- Neither of the two files leads with a dash, so both are read back. -/
theorem readArgs_of_gives_stray :
    ∃ p, strayConfig.Gives strayTree p ∧
      readArgs p.args = ⟨p.roots.map Path.text, strayConfig.outputArgs p, ["p/a.proto", "/x/b.proto"]⟩ := by
  obtain ⟨p, gives, args, listed, -⟩ := gives_strayConfig
  obtain ⟨-, -, named, readBack⟩ := readArgs_of_gives gives
  refine ⟨p, gives, args ▸ readBack.mpr ?_⟩
  rw [args, listed] at named
  rw [listed]
  intro file first
  cases first
  cases named with
  | cons plain _ => exact fun dash => absurd (plain.mpr dash) (by decide)

/-- A file right below the primary root, with a dash in front of its name. -/
def dashedTree : MemoryFiles := MemoryFiles.ofFiles (.ofString "/") [MemoryFiles.textFile "/w/-a.proto" ""]

def dashedConfig : Config := (ofPaths "/w" "/w" "/out" []).withoutDetection

/-- A file is read back as an output. -/
theorem readArgs_dashed :
    ∃ p, dashedConfig.Gives dashedTree p ∧ p.fileArgs = ["-a.proto"] ∧
      readArgs p.args ≠ ⟨p.roots.map Path.text, dashedConfig.outputArgs p, p.fileArgs⟩ := by
  have stages : dashedConfig.validate dashedTree = .ok (dashedConfig.resolvePaths (.ofString "/")) ∧
      discover dashedTree (.ofString "/w") = .ok [.ofString "/w/-a.proto"] :=
    stages_ofFiles rfl rfl (MemoryFiles.isDir_ofFiles rfl (by decide))
      (MemoryFiles.isDir_ofFiles rfl (by decide)) (by decide) (by decide +kernel)
      (by decide +kernel) (by decide)
  have plans : dashedConfig.Plans dashedTree dashedConfig.protoc _ :=
    ⟨_, _, stages.1, stages.2, by decide, rfl⟩
  refine ⟨_, .inl ⟨{}, plan_eq_ok.mpr plans⟩, ?_⟩
  rw [dashedConfig, sourceSet_withoutDetection]
  decide +kernel

end Config

end ProtoTree
