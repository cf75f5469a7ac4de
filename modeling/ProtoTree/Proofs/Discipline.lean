import ProtoTree.Proofs.FileSystem.Directories
import ProtoTree.Proofs.Run

/-! # What every run keeps to

However a run ends, its events tell of the first few stages and then of the end,
the compiler is called at most once, an error before that call leaves the files
in memory alone, and the result is what the compiler's reply says.
-/

namespace ProtoTree

/-- Whether a run fails in this way before its compiler is called. -/
def CompileError.IsEarly : CompileError → Prop
  | .config _ | .toolchain _ | .discovery .. | .noProtoFiles _ | .outputDir .. => True
  | .exec _ | .compilerFailed .. => False

namespace Config

variable {σ : Type} [FileSystem σ] {c : Config} {locator : ToolLocator} {fs : σ} {paths : ResolvedPaths}
  {toolchain : Toolchain} {files : List Path} {executor : Executor σ} {clock : Stopwatch}

/-- The file system that a run hands to its executor. -/
def readied (c : Config) (fs : σ) : σ :=
  match c.validate fs with
  | .ok paths => (FileSystem.createDirAll fs paths.outputDir).2
  | .error _ => fs

/-- How a run goes: what it tells, what it has executed, what it leaves alone, and what it concludes. -/
structure Disciplined (c : Config) (locator : ToolLocator) (executor : Executor σ) (fs : σ)
    (run : CompileRun σ) : Prop where
  /-- The events tell of the first few stages, never of discovery alone, and then once of the end. -/
  events : ∃ passed last, run.trace.events = passed ++ [last] ∧
    passed.map ProgressEvent.stage <+: Stage.inOrder ∧
    passed.map ProgressEvent.stage ≠ [.started, .discovered] ∧
    ((∃ time, last = .completed time) ↔ ∃ out, run.result = .ok out) ∧
    ∀ text, last = .failed text ↔ ∃ e, run.result = .error e ∧ e.message = text
  atMostOnce : run.trace.calls.length ≤ 1
  once : run.trace.calls.length = 1 ↔ ∃ paths toolchain files, c.Prepared locator fs paths toolchain files
  untouched : ∀ e, run.result = .error e → e.IsEarly → run.files = fs
  succeeds : (∃ out, run.result = .ok out) ↔
    ∃ i ∈ run.trace.calls, ∃ done, (executor (c.readied fs) i).1 = .ok done ∧ done.success
  fails : ∀ i ∈ run.trace.calls, ∀ done, (executor (c.readied fs) i).1 = .ok done →
    done.success = false → run.result = .error (.compilerFailed done.exitCode done.output)
  breaks : ∀ i ∈ run.trace.calls, ∀ e, (executor (c.readied fs) i).1 = .error e →
    run.result = .error (.exec e)

/-! ## Events -/

/-- A run tells of the first few stages, but never ends between discovery and resolution. -/
theorem stages_runStages :
    (c.runStages locator executor fs clock).trace.stages <+: Stage.inOrder ∧
      (c.runStages locator executor fs clock).trace.stages ≠ [.started, .discovered] := by
  rcases stops_or_prepared c locator fs with ⟨e, passed, left, stops⟩ | ⟨paths, toolchain, files, prepared⟩
  · rw [(shows_of_stops stops).stages]
    cases stops with
    | invalid | toolMissing | unlisted | noFiles | noOutput => decide
  · rw [(shows_of_prepared prepared rfl).stages]
    split
    · decide
    · decide

/-- The last event tells whether the run has succeeded, and otherwise why not. -/
theorem finalEvent_iff (result : Except CompileError CompileOutput) :
    ((∃ time, finalEvent clock result = .completed time) ↔ ∃ out, result = .ok out) ∧
      ∀ text, finalEvent clock result = .failed text ↔ ∃ e, result = .error e ∧ e.message = text := by
  cases result with
  | error e => simp [finalEvent]
  | ok out => simp [finalEvent]

theorem events_disciplined :
    ∃ passed last, (c.compile locator executor fs clock).trace.events = passed ++ [last] ∧
      passed.map ProgressEvent.stage <+: Stage.inOrder ∧
      passed.map ProgressEvent.stage ≠ [.started, .discovered] ∧
      ((∃ time, last = .completed time) ↔
        ∃ out, (c.compile locator executor fs clock).result = .ok out) ∧
      ∀ text, last = .failed text ↔
        ∃ e, (c.compile locator executor fs clock).result = .error e ∧ e.message = text := by
  obtain ⟨inOrder, resolved⟩ := @stages_runStages _ _ c locator fs executor clock
  obtain ⟨completed, failed⟩ := @finalEvent_iff clock (c.runStages locator executor fs clock).result
  exact ⟨_, _, events_compile, inOrder, resolved, completed, failed⟩

/-! ## The compiler's reply -/

theorem concludes_of_failed {p : CompilePlan} {done : ExecOutput} (failed : done.success = false) :
    concludes p (.ok done) = .error (.compilerFailed done.exitCode done.output) := by
  rw [concludes, failed]
  rfl

/-- No reply means an early error. -/
theorem not_isEarly_of_concludes {p : CompilePlan} {reply : ExecReply} {e : CompileError}
    (fails : concludes p reply = .error e) : ¬ e.IsEarly := by
  cases reply with
  | error cause =>
      cases fails
      exact id
  | ok done =>
      cases success : done.success with
      | true => simp [concludes, success] at fails
      | false =>
          rw [concludes_of_failed success] at fails
          cases fails
          exact id

/-- A run that is prepared hands its invocation to the executor, and concludes from the reply. -/
theorem concludes_of_prepared (prepared : c.Prepared locator fs paths toolchain files) :
    ∃ p i, (c.compile locator executor fs clock).trace.calls = [i] ∧
      (c.compile locator executor fs clock).result = concludes p (executor (c.readied fs) i).1 := by
  obtain ⟨p, plan⟩ : ∃ p, c.planOf paths toolchain.protoc.text (c.sourceSet fs paths files) = p := ⟨_, rfl⟩
  have shows := @shows_of_prepared _ _ c locator fs paths toolchain files executor clock p prepared plan
  have handed : c.readied fs = (FileSystem.createDirAll fs p.outputDir).2 := by
    simp only [readied, prepared.valid, ← plan]
    rfl
  refine ⟨p, invocation toolchain p, calls_compile.trans shows.calls, ?_⟩
  rw [handed]
  exact shows.result

/-- How a run that is prepared goes. -/
theorem disciplined_of_prepared (prepared : c.Prepared locator fs paths toolchain files) :
    c.Disciplined locator executor fs (c.compile locator executor fs clock) := by
  obtain ⟨p, i, called, concluded⟩ :=
    @concludes_of_prepared _ _ c locator fs paths toolchain files executor clock prepared
  constructor
  case events => exact events_disciplined
  case atMostOnce => simp [called]
  case once => exact iff_of_true (by simp [called]) ⟨paths, toolchain, files, prepared⟩
  case untouched =>
    intro e fails early
    exact absurd early (not_isEarly_of_concludes (concluded.symm.trans fails))
  case succeeds =>
    simp only [called, concluded, List.mem_singleton, exists_eq_left, concludes_eq_ok]
    constructor
    · rintro ⟨out, done, replied, success, -⟩
      exact ⟨done, replied, success⟩
    · rintro ⟨done, replied, success⟩
      exact ⟨_, done, replied, success, rfl⟩
  case fails =>
    simp only [called, concluded, List.mem_singleton, forall_eq]
    intro done replied failed
    rw [replied, concludes_of_failed failed]
  case breaks =>
    simp only [called, concluded, List.mem_singleton, forall_eq]
    intro e replied
    rw [replied, concludes]

/-! ## Runs over files in memory -/

/-- A run that stops before its compiler is called leaves the files as they are. -/
theorem Stops.left_eq {m left : MemoryFiles} {e : CompileError} {passed : List Stage}
    (stops : Stops c locator m e passed left) : left = m := by
  cases stops with
  | invalid | toolMissing | unlisted | noFiles => rfl
  | noOutput valid tools found filled refused => exact MemoryFiles.createDirAll_of_refused refused

theorem compile_disciplined (c : Config) (locator : ToolLocator) (executor : Executor MemoryFiles)
    (m : MemoryFiles) (clock : Stopwatch) :
    c.Disciplined locator executor m (c.compile locator executor m clock) := by
  rcases stops_or_prepared c locator m with ⟨e, passed, left, stops⟩ | ⟨paths, toolchain, files, prepared⟩
  · have shows := @shows_of_stops _ _ c locator m executor clock e passed left stops
    have called : (c.compile locator executor m clock).trace.calls = [] := calls_compile.trans shows.calls
    have failed : (c.compile locator executor m clock).result = .error e := shows.result
    constructor
    case events => exact events_disciplined
    case atMostOnce => simp [called]
    case once => exact iff_of_false (by simp [called]) fun ⟨_, _, _, prepared⟩ => stops.not_prepared prepared
    case untouched => exact fun _ _ _ => shows.files.trans stops.left_eq
    case succeeds => simp [called, failed]
    case fails => simp [called]
    case breaks => simp [called]
  · exact disciplined_of_prepared prepared

end Config

end ProtoTree
