import ProtoTree.Proofs.Diagnostics
import ProtoTree.Proofs.Discipline

/-! # Dry runs

What a run has executed is its configuration's plan, for the program that was
found. A run over files in memory makes its output directory and nothing else,
so plans stay what they are, whatever is called in between. Only the reason why
a file cannot be read may be worded differently, where the directory comes to
stand at a path that named nothing.
-/

namespace ProtoTree

namespace SourceFile

/-- A file without the reason why it could not be read. -/
def unexplained (f : SourceFile) : SourceFile := { f with failure := none }

end SourceFile

/-! ## What reasons do not touch -/

namespace ImportGraph

variable (s : SearchSpace) (isFile : Path → Bool) (files : List SourceFile)

theorem lastWithKey_unexplained (key : String) :
    lastWithKey (files.map SourceFile.unexplained) key = lastWithKey files key := by
  simp only [lastWithKey, List.zipIdx_map, ← List.map_reverse, List.find?_map, Option.map_map]
  rfl

theorem linkIn_unexplained (source : Nat) (file : SourceFile) (literal : String) :
    linkIn s isFile (files.map SourceFile.unexplained) source file.unexplained literal =
      linkIn s isFile files source file literal := by
  have target (found : Path) :
      targetIn (files.map SourceFile.unexplained) found = targetIn files found := by
    simp only [targetIn, lastWithKey_unexplained, List.getElem?_map, Option.map_map]
    rfl
  simp only [linkIn, target]
  rfl

theorem linksIn_unexplained :
    linksIn s isFile (files.map SourceFile.unexplained) = linksIn s isFile files := by
  simp only [linksIn, List.zipIdx_map, List.flatMap_map]
  refine List.flatMap_congr fun item _ => List.map_congr_left fun literal _ => ?_
  exact linkIn_unexplained s isFile files item.2 item.1 literal

theorem countImporters_unexplained (links : List ImportLink) :
    countImporters links (files.map SourceFile.unexplained) = countImporters links files := by
  simp only [countImporters, List.zipIdx_map, List.map_map]
  rfl

/-- The graph does not depend on why files could not be read. -/
theorem build_unexplained : build s isFile (files.map SourceFile.unexplained) = build s isFile files := by
  rw [build_eq, build_eq, buildIn, buildIn, linksIn_unexplained, countImporters_unexplained]

end ImportGraph

/-- Neither does the decision. -/
theorem Inclusion.ofGraph_unexplained (files : List SourceFile) (g : ImportGraph) :
    ofGraph (files.map SourceFile.unexplained) g = ofGraph files g := by
  simp only [ofGraph, everything, List.filter_map, List.map_map, List.isEmpty_map]
  rfl

/-! ## The plan that a run has executed -/

/-- Whether a run goes by a plan: it tells what the plan holds, starts the plan's command line, and gives the plan
    when it succeeds. -/
structure CompileRun.GoesBy {σ : Type} (run : CompileRun σ) (p : CompilePlan) : Prop where
  told : Config.resolutionEvent p ∈ run.trace.events
  started : .compilerStarted p.commandLine ∈ run.trace.events
  given : ∀ out, run.result = .ok out → out.plan = p

namespace Config

section General

variable {σ : Type} [FileSystem σ] {c : Config} {locator : ToolLocator} {fs : σ} {paths : ResolvedPaths}
  {toolchain : Toolchain} {files : List Path} {executor : Executor σ} {clock : Stopwatch}

theorem value_plan_of_found (valid : c.validate fs = .ok paths)
    (found : discover fs paths.protoDir = .ok files) (clock : Stopwatch) :
    (c.plan fs clock).value = if files = [] then .error (.noProtoFiles c.protoDir)
      else .ok (c.planOf paths c.protoc (c.sourceSet fs paths files)) := by
  simp only [plan, valid]
  split
  · next none =>
      subst none
      rw [buildPlan_of_noFiles found]
  · next filled => exact (buildPlan_of_found found filled).1

theorem value_plan_clock (clock clock' : Stopwatch) :
    (c.plan fs clock).value = (c.plan fs clock').value := by
  simp only [plan]
  cases c.validate fs with
  | error e => rfl
  | ok paths =>
      simp only [buildPlan]
      cases discoverIn fs paths with
      | error e => rfl
      | ok files =>
          cases files with
          | nil => rfl
          | cons file files => rfl

theorem goesBy_of_prepared (prepared : c.Prepared locator fs paths toolchain files) :
    (c.compile locator executor fs clock).GoesBy
      (c.planOf paths toolchain.protoc.text (c.sourceSet fs paths files)) := by
  have planned := @buildPlan_of_found _ _ c fs paths files clock toolchain.protoc.text prepared.found
    prepared.filled
  have stages := @runStages_of_planned _ _ c locator fs paths toolchain executor clock _ prepared.valid
    prepared.tools planned.1
  have shows := @shows_of_prepared _ _ c locator fs paths toolchain files executor clock _ prepared rfl
  constructor
  case told =>
    obtain ⟨file, rest, rfl⟩ := List.exists_cons_of_ne_nil prepared.filled
    simp only [compile, stages, buildPlan, discoverIn, prepared.found]
    simp [sourceSet]
  case started =>
    have ready : FileSystem.createDirAll fs paths.outputDir =
        (.ok (), (FileSystem.createDirAll fs paths.outputDir).2) := Prod.ext prepared.made rfl
    have output : (c.planOf paths toolchain.protoc.text (c.sourceSet fs paths files)).outputDir =
        paths.outputDir := rfl
    simp only [compile, stages, execute, output]
    rw [ready]
    simp
  case given =>
    intro out succeeds
    obtain ⟨done, -, -, rfl⟩ := concludes_eq_ok.mp (shows.result.symm.trans succeeds)
    rfl

/-- What is handed to the executor is the plan, with the program that was found. -/
theorem invoked_as_planned {i : Invocation} (called : i ∈ (c.compile locator executor fs clock).trace.calls) :
    ∃ toolchain p, c.findToolchain locator = .ok toolchain ∧
      (∀ clock', (c.plan fs clock').value = .ok p) ∧ i = ⟨toolchain.protoc, p.args, p.workingDir⟩ ∧
      (c.compile locator executor fs clock).GoesBy { p with program := toolchain.protoc.text } := by
  rw [calls_compile] at called
  rcases stops_or_prepared c locator fs with ⟨e, passed, left, stops⟩ | ⟨paths, toolchain, files, prepared⟩
  · rw [(shows_of_stops stops).calls] at called
    cases called
  · rw [(shows_of_prepared prepared rfl).calls, List.mem_singleton] at called
    refine ⟨toolchain, c.planOf paths c.protoc (c.sourceSet fs paths files), prepared.tools,
      fun clock' => ?_, called, goesBy_of_prepared prepared⟩
    rw [value_plan_of_found prepared.valid prepared.found, if_neg prepared.filled]

end General

/-! ## Calls over files in memory -/

/-- A call of a compiler. What a run has executed may read the files, and leaves them as they are. -/
inductive CompilerCall where
  | compile (locator : ToolLocator) (reply : MemoryFiles → Invocation → ExecReply × List LogRecord)
      (clock : Stopwatch)
  | plan
  | findFiles
  | check
  | status

/-- The files after a call. Only a run makes a directory. -/
def afterCall (c : Config) (m : MemoryFiles) : CompilerCall → MemoryFiles
  | .compile locator reply clock =>
    (c.compile locator (fun left i => ((reply left i).1, (reply left i).2, left)) m clock).files
  | .plan | .findFiles | .check | .status => m

/-- The files after some calls. -/
def afterCalls (c : Config) (m : MemoryFiles) (calls : List CompilerCall) : MemoryFiles :=
  calls.foldl c.afterCall m

variable {c : Config} {m now : MemoryFiles}

/-- The files as they were, or with more directories at and above the output directory of a plan. -/
def Reached (c : Config) (m now : MemoryFiles) : Prop :=
  now = m ∨ ∃ paths files, c.validate m = .ok paths ∧ discover m paths.protoDir = .ok files ∧
    MemoryFiles.Furnishes paths.outputDir m now

theorem validate_of_furnishes {dir : Path} (furnishes : MemoryFiles.Furnishes dir m now)
    {paths : ResolvedPaths} (valid : c.validate m = .ok paths) : c.validate now = .ok paths := by
  obtain ⟨plain, base, current, fine, rfl⟩ := validate_eq_ok.mp valid
  obtain ⟨protoDir, workspaceDir, within⟩ := directoryFault?_eq_none.mp fine
  have still : FileSystem.currentDir now = .ok base := by
    rw [← current]
    exact congrArg Except.ok furnishes.root
  exact validate_eq_ok.mpr ⟨plain, base, still, directoryFault?_eq_none.mpr
    ⟨furnishes.isDir _ protoDir, furnishes.isDir _ workspaceDir, within⟩, rfl⟩

/-- A call makes the output directory of a plan, or leaves the files as they are. -/
theorem afterCall_cases (m : MemoryFiles) (call : CompilerCall) :
    c.afterCall m call = m ∨ ∃ paths files, c.validate m = .ok paths ∧
      discover m paths.protoDir = .ok files ∧ m.isFile paths.outputDir = false ∧
      c.afterCall m call = m.addDir paths.outputDir := by
  cases call with
  | plan | findFiles | check | status => exact .inl rfl
  | compile locator reply clock =>
      rcases stops_or_prepared c locator m with
        ⟨e, passed, left, stops⟩ | ⟨paths, toolchain, files, prepared⟩
      · exact .inl ((shows_of_stops stops).files.trans stops.left_eq)
      · obtain ⟨free, made⟩ := MemoryFiles.createDirAll_of_made prepared.made
        exact .inr ⟨paths, files, prepared.valid, prepared.found, free,
          (shows_of_prepared prepared rfl).files.trans made⟩

theorem Reached.afterCall (reached : c.Reached m now) (call : CompilerCall) :
    c.Reached m (c.afterCall now call) := by
  rcases afterCall_cases (c := c) now call with same | ⟨paths, files, valid, found, free, made⟩
  · rwa [same]
  · rw [made]
    have added := MemoryFiles.furnishes_addDir free
    rcases reached with rfl | ⟨paths', files', valid', found', furnishes⟩
    · exact .inr ⟨paths, files, valid, found, added⟩
    · obtain rfl := Except.ok.inj (valid.symm.trans (validate_of_furnishes furnishes valid'))
      exact .inr ⟨paths, files', valid', found', furnishes.trans added⟩

theorem reached_afterCalls (c : Config) (m : MemoryFiles) (calls : List CompilerCall) :
    c.Reached m (c.afterCalls m calls) := by
  induction calls using List.reverseRecOn with
  | nil => exact .inl rfl
  | append_singleton calls call ih =>
      rw [afterCalls, List.foldl_concat]
      exact ih.afterCall call

/-! ## Plans between calls -/

/-- How a note may come to be worded once a directory is made: the file named nothing, and the directory lies at it
    or below. -/
inductive Rewords (m : MemoryFiles) (dir : Path) : Diagnostic → Diagnostic → Prop
  | same (note : Diagnostic) : Rewords m dir note note
  | met (file : Path) (nothing : m.entry? file = none)
      (above : (m.locate file).components <+: (m.locate dir).components) :
      Rewords m dir (.unreadableFile file (FileError.missing (m.locate file)).message)
        (.unreadableFile file (FileError.failed .readFile (m.locate file) none).message)

/-- Whether planning gives the same: the same error, or the same plan up to such rewordings. -/
inductive Replans (m : MemoryFiles) : Except CompileError CompilePlan → Except CompileError CompilePlan → Prop
  | error (e : CompileError) : Replans m (.error e) (.error e)
  | plan (p : CompilePlan) (notes : List Diagnostic)
      (worded : List.Forall₂ (Rewords m p.outputDir) p.diagnostics notes) :
      Replans m (.ok p) (.ok { p with diagnostics := notes })

theorem rewords_refl (dir : Path) (notes : List Diagnostic) : List.Forall₂ (Rewords m dir) notes notes :=
  List.forall₂_same.mpr fun note _ => .same note

theorem Replans.refl (result : Except CompileError CompilePlan) : Replans m result result := by
  cases result with
  | error e => exact .error e
  | ok p => exact .plan p p.diagnostics (rewords_refl p.outputDir p.diagnostics)

/-- Apart from its notes, a plan is made of the number of files, the decision and the roots. -/
theorem planOf_congr {paths : ResolvedPaths} {program : String} {s t : SourceSet}
    (files : t.files.length = s.files.length) (inclusion : t.inclusion = s.inclusion)
    (roots : t.roots = s.roots) :
    c.planOf paths program t =
      { c.planOf paths program s with diagnostics := (c.planOf paths program t).diagnostics } := by
  simp only [planOf, commandRequest, files, inclusion, roots]

section Furnished

variable {dir : Path} (furnishes : MemoryFiles.Furnishes dir m now)
include furnishes

theorem isFile_of_furnishes : FileSystem.isFile now = FileSystem.isFile m :=
  funext furnishes.isFile

/-- A file declares the same. -/
theorem unexplained_scan (file : Path) :
    (SourceFile.scan now file).unexplained = (SourceFile.scan m file).unexplained := by
  have read := furnishes.read file
  change FileSystem.read now file = FileSystem.read m file ∨ _ ∧ FileSystem.read m file = _ ∧
    FileSystem.read now file = _ at read
  rw [SourceFile.scan, SourceFile.scan]
  rcases read with same | ⟨-, before, met⟩
  · rw [same]
  · rw [before, met]
    rfl

theorem unexplained_scans (files : List Path) :
    (files.map (SourceFile.scan now)).map SourceFile.unexplained =
      (files.map (SourceFile.scan m)).map SourceFile.unexplained := by
  rw [List.map_map, List.map_map]
  exact List.map_congr_left fun file _ => unexplained_scan furnishes file

theorem build_of_furnishes (s : SearchSpace) (files : List Path) :
    ImportGraph.build s (FileSystem.isFile now) (files.map (SourceFile.scan now)) =
      ImportGraph.build s (FileSystem.isFile m) (files.map (SourceFile.scan m)) := by
  rw [← ImportGraph.build_unexplained, unexplained_scans furnishes, isFile_of_furnishes furnishes,
    ImportGraph.build_unexplained]

/-- A note on a file stays, but for its wording. -/
theorem unreadableNote?_of_furnishes (file : Path) :
    unreadableNote? now file = unreadableNote? m file ∨
      ∃ before after, unreadableNote? m file = some before ∧ unreadableNote? now file = some after ∧
        Rewords m dir before after := by
  have read := furnishes.read file
  change FileSystem.read now file = FileSystem.read m file ∨ _ ∧ FileSystem.read m file = _ ∧
    FileSystem.read now file = _ at read
  rw [unreadableNote?, unreadableNote?]
  rcases read with same | ⟨above, before, met⟩
  · exact .inl (by rw [same])
  · rw [before, met]
    exact .inr ⟨_, _, rfl, rfl, .met file (MemoryFiles.entry?_of_missing before) above⟩

theorem unreadableNotes_of_furnishes (files : List Path) :
    List.Forall₂ (Rewords m dir) (unreadableNotes m files) (unreadableNotes now files) := by
  induction files with
  | nil => exact .nil
  | cons file files ih =>
      simp only [unreadableNotes, List.filterMap_cons] at ih ⊢
      rcases unreadableNote?_of_furnishes furnishes file with same | ⟨before, after, noted, noted', worded⟩
      · rw [same]
        cases unreadableNote? m file with
        | none => exact ih
        | some note => exact .cons (.same note) ih
      · rw [noted, noted']
        exact .cons worded ih

/-- With import detection on, a source set stays but for its reasons. -/
theorem sourceSet_of_furnishes (detects : c.autoDetectImports) (paths : ResolvedPaths) (files : List Path) :
    (c.sourceSet now paths files).graph = (c.sourceSet m paths files).graph ∧
      (c.sourceSet now paths files).inclusion = (c.sourceSet m paths files).inclusion ∧
      (c.sourceSet now paths files).roots = (c.sourceSet m paths files).roots := by
  have detected : (c.sourceSetRequest paths).detectImports := detects
  have graph : (c.sourceSet now paths files).graph = (c.sourceSet m paths files).graph := by
    rw [sourceSet, sourceSet, SourceSetRequest.graph_resolve _ _ _ detected,
      SourceSetRequest.graph_resolve _ _ _ detected, build_of_furnishes furnishes]
  refine ⟨graph, ?_, ?_⟩
  · rw [sourceSet, sourceSet] at graph ⊢
    rw [SourceSetRequest.inclusion_resolve _ _ _ detected, SourceSetRequest.inclusion_resolve _ _ _ detected,
      graph, ← Inclusion.ofGraph_unexplained, unexplained_scans furnishes, Inclusion.ofGraph_unexplained]
  · rw [sourceSet, sourceSet] at graph ⊢
    rw [SourceSetRequest.roots_resolve _ _ _ detected, SourceSetRequest.roots_resolve _ _ _ detected, graph]

/-- A plan stays, but for the wording of its notes. -/
theorem replans_planOf {paths : ResolvedPaths} (output : paths.outputDir = dir) (program : String)
    (files : List Path) :
    Replans m (.ok (c.planOf paths program (c.sourceSet m paths files)))
      (.ok (c.planOf paths program (c.sourceSet now paths files))) := by
  subst output
  cases detects : c.autoDetectImports with
  | false =>
      have blind : c.sourceSet now paths files = c.sourceSet m paths files := by
        simp [sourceSet, sourceSetRequest, SourceSetRequest.resolve, detects]
      rw [blind]
      exact .refl _
  | true =>
      obtain ⟨graph, inclusion, roots⟩ := sourceSet_of_furnishes furnishes detects paths files
      have detected : (c.sourceSetRequest paths).detectImports := detects
      have count : (c.sourceSet now paths files).files.length = (c.sourceSet m paths files).files.length := by
        simp [sourceSet, SourceSetRequest.length_files_resolve]
      rw [planOf_congr count inclusion roots]
      refine .plan _ _ ?_
      have notes (fs : MemoryFiles) : resolutionNotes (c.sourceSet fs paths files) =
          unreadableNotes fs files ++
            ((c.sourceSet fs paths files).graph.unresolved.map fun e => .unresolvedImport e.source e.literal) ++
            (if (c.sourceSet fs paths files).inclusion.fallbackApplied
              then [.filterFallback (c.sourceSet fs paths files).files.length] else []) := by
        rw [resolutionNotes, ← unreadableNotes_eq, sourceSet, SourceSetRequest.files_resolve _ _ _ detected]
      simp only [planOf, commandRequest, notes, graph, inclusion, roots, count]
      have unread := unreadableNotes_of_furnishes furnishes files
      exact List.rel_append (List.rel_append (List.rel_append unread (rewords_refl _ _)) (rewords_refl _ _))
        (rewords_refl _ _)

end Furnished

/-- Planning gives the same wherever calls may lead. -/
theorem Reached.replans (reached : c.Reached m now) (clock clock' : Stopwatch) :
    Replans m (c.plan m clock).value (c.plan now clock').value := by
  rcases reached with rfl | ⟨paths, files, valid, found, furnishes⟩
  · rw [value_plan_clock clock clock']
    exact .refl _
  · rw [value_plan_of_found valid found,
      value_plan_of_found (validate_of_furnishes furnishes valid) (furnishes.discover found)]
    split
    · exact .error _
    · exact replans_planOf furnishes rfl c.protoc files

/-- A run has the plan executed that its configuration gives just before, for the program that was found; and after
    any calls the configuration gives that plan again, or the same error. -/
theorem plan_steady (c : Config) (m : MemoryFiles) :
    (∀ locator executor clock, ∀ i ∈ (c.compile locator executor m clock).trace.calls,
      ∃ toolchain p, c.findToolchain locator = .ok toolchain ∧ (∀ clock', (c.plan m clock').value = .ok p) ∧
        i = ⟨toolchain.protoc, p.args, p.workingDir⟩ ∧
        (c.compile locator executor m clock).GoesBy { p with program := toolchain.protoc.text }) ∧
    ∀ calls clock clock', Replans m (c.plan m clock).value (c.plan (c.afterCalls m calls) clock').value :=
  ⟨fun _ _ _ _ called => invoked_as_planned called,
    fun calls clock clock' => (reached_afterCalls c m calls).replans clock clock'⟩

/-! ### A directory where a file is looked for -/

section Passing

open MemoryFiles

/-- A file that is listed below the proto directory and lies beside it once its path is in normal form. -/
def passingTree : MemoryFiles := ofFiles (.ofString "/") [textFile "/w/p/../q/a.proto" ""]

/-- A configuration with its output directory at that normal form. -/
def passingConfig : Config := ofPaths "/w/p" "/w" "/w/q/a.proto" []

theorem stages_passing :
    passingConfig.validate passingTree = .ok (passingConfig.resolvePaths (.ofString "/")) ∧
      discover passingTree (.ofString "/w/p") = .ok [.ofString "/w/q/a.proto"] :=
  stages_ofFiles rfl rfl (isDir_ofFiles rfl (by decide)) (isDir_ofFiles rfl (by decide))
    (by decide) (by decide +kernel) (by decide +kernel) (by decide)

/-- Every tool is there, under its own name. -/
def everyTool : ToolLocator where
  find tool := some (.ofString tool)

/-- A run whose compiler succeeds. -/
def smoothRun : CompilerCall := .compile everyTool (fun _ _ => (.ok ⟨"", some 0, true⟩, [])) {}

theorem isFile_passing : passingTree.isFile (.ofString "/w/q/a.proto") = false := by
  rw [passingTree, isFile_ofFiles]
  rfl

theorem createDirAll_passing :
    FileSystem.createDirAll passingTree (.ofString "/w/q/a.proto") =
      (.ok (), passingTree.addDir (.ofString "/w/q/a.proto")) := by
  change passingTree.createDirAll _ = _
  rw [createDirAll, isFile_passing]
  rfl

theorem prepared_passing :
    ∃ toolchain, passingConfig.Prepared everyTool passingTree (passingConfig.resolvePaths (.ofString "/"))
      toolchain [.ofString "/w/q/a.proto"] :=
  ⟨_, stages_passing.1, rfl, stages_passing.2, by decide, congrArg Prod.fst createDirAll_passing⟩

theorem afterCalls_passing :
    passingConfig.afterCalls passingTree [smoothRun] = passingTree.addDir (.ofString "/w/q/a.proto") := by
  obtain ⟨toolchain, prepared⟩ := prepared_passing
  exact (shows_of_prepared prepared rfl).files.trans (congrArg Prod.snd createDirAll_passing)

/-- The run has the arguments of the plan executed, and the plan stays but for the wording of its notes. -/
theorem plan_steady_passing :
    ∃ i p notes, (passingConfig.compile everyTool (fun left _ => (.ok ⟨"", some 0, true⟩, [], left))
        passingTree {}).trace.calls = [i] ∧
      (passingConfig.plan passingTree {}).value = .ok p ∧ i.args = p.args ∧
      (passingConfig.plan (passingConfig.afterCalls passingTree [smoothRun]) {}).value =
        .ok { p with diagnostics := notes } := by
  obtain ⟨toolchain, prepared⟩ := prepared_passing
  have shows := @shows_of_prepared _ _ _ _ _ _ _ _
    (fun left _ => (.ok ⟨"", some 0, true⟩, [], left)) {} _ prepared rfl
  have calls := calls_compile.trans shows.calls
  obtain ⟨invoked, steady⟩ := plan_steady passingConfig passingTree
  obtain ⟨_, p, -, planned, args, -⟩ := invoked _ _ _ _ (calls ▸ List.mem_singleton_self _)
  have replans := steady [smoothRun] {} {}
  rw [planned {}] at replans
  generalize (passingConfig.plan (passingConfig.afterCalls passingTree [smoothRun]) {}).value = result
    at replans ⊢
  cases replans with
  | plan _ notes _ => exact ⟨_, p, notes, calls, planned {}, congrArg Invocation.args args, rfl⟩

/-- The first note tells why the only file cannot be read. -/
theorem head_diagnostics {fs : MemoryFiles} {e : FileError}
    (valid : passingConfig.validate fs = .ok (passingConfig.resolvePaths (.ofString "/")))
    (found : discover fs (.ofString "/w/p") = .ok [.ofString "/w/q/a.proto"])
    (unread : FileSystem.read fs (.ofString "/w/q/a.proto") = .error e) :
    ∃ p, (passingConfig.plan fs {}).value = .ok p ∧
      p.diagnostics.head? = some (.unreadableFile (.ofString "/w/q/a.proto") e.message) := by
  have planned := value_plan_of_found valid found {}
  rw [if_neg (by decide)] at planned
  have noted : unreadableNotes fs [.ofString "/w/q/a.proto"] =
      [.unreadableFile (.ofString "/w/q/a.proto") e.message] := by
    simp only [unreadableNotes, List.filterMap_cons, unreadableNote?, unread, List.filterMap_nil]
  refine ⟨_, planned, ?_⟩
  rw [diagnostics_planOf rfl rfl passingConfig.protoc rfl, noted]
  rfl

/-- A run may have the next plan word a note differently. -/
theorem plan_reworded :
    (passingConfig.plan (passingConfig.afterCalls passingTree [smoothRun]) {}).value ≠
      (passingConfig.plan passingTree {}).value := by
  have missing : passingTree.read (.ofString "/w/q/a.proto") = .error (.missing (.ofString "/w/q/a.proto")) :=
    read_ofFiles_of_absent (by decide)
  have furnishes := furnishes_addDir isFile_passing
  have met : (passingTree.addDir (.ofString "/w/q/a.proto")).read (.ofString "/w/q/a.proto") =
      .error (.failed .readFile (.ofString "/w/q/a.proto") none) := by
    have here : entry? (passingTree.addDir (.ofString "/w/q/a.proto")) (.ofString "/w/q/a.proto") =
        some .directory := by
      unfold entry? find
      rw [addDir, items_insert, locate_insert, if_pos rfl]
    rw [MemoryFiles.read, here]
    rfl
  obtain ⟨p, planned, note⟩ := head_diagnostics stages_passing.1 stages_passing.2 missing
  obtain ⟨p', planned', note'⟩ := head_diagnostics (validate_of_furnishes furnishes stages_passing.1)
    (furnishes.discover stages_passing.2) met
  intro same
  rw [afterCalls_passing, planned, planned'] at same
  obtain rfl := Except.ok.inj same
  have reason := (Diagnostic.unreadableFile.inj (Option.some.inj (note.symm.trans note'))).2
  revert reason
  decide

end Passing

end Config

end ProtoTree
