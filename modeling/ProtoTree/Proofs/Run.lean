import ProtoTree.Proofs.Plan

/-! # How runs end

A run stops at the first stage that fails, before the compiler is called, or it
has its plan executed and concludes from the reply. What a run shows and leaves
behind is settled by which of the two it does.
-/

namespace ProtoTree

/-- What a progress event tells of. -/
inductive Stage where
  | started
  | discovered
  | resolved
  | compilerStarted
  | compilerFinished
  | completed
  | failed
  deriving DecidableEq, Repr

namespace Stage

/-- The stages that a run goes through before it ends. -/
def inOrder : List Stage := [started, discovered, resolved, compilerStarted, compilerFinished]

end Stage

namespace ProgressEvent

def stage : ProgressEvent → Stage
  | started _ => .started
  | discoveryComplete .. => .discovered
  | resolutionComplete .. => .resolved
  | compilerStarted _ => .compilerStarted
  | compilerFinished .. => .compilerFinished
  | completed _ => .completed
  | failed _ => .failed

end ProgressEvent

namespace Trace

/-- The stages that the events of a trace tell of. -/
def stages (t : Trace) : List Stage := t.events.map ProgressEvent.stage

@[simp] theorem events_append (t u : Trace) : Trace.events (t ++ u) = t.events ++ u.events :=
  List.filterMap_append

@[simp] theorem events_event (e : ProgressEvent) (t : Trace) :
    Trace.events (.event e :: t) = e :: t.events := rfl

@[simp] theorem events_call (i : Invocation) (t : Trace) : Trace.events (.call i :: t) = t.events := rfl

@[simp] theorem events_record (r : LogRecord) (t : Trace) : Trace.events (.record r :: t) = t.events := rfl

@[simp] theorem events_nil : Trace.events [] = [] := rfl

@[simp] theorem events_ofRecords (records : List LogRecord) : (ofRecords records).events = [] := by
  simp [ofRecords, events]

@[simp] theorem calls_append (t u : Trace) : Trace.calls (t ++ u) = t.calls ++ u.calls :=
  List.filterMap_append

@[simp] theorem calls_event (e : ProgressEvent) (t : Trace) : Trace.calls (.event e :: t) = t.calls := rfl

@[simp] theorem calls_call (i : Invocation) (t : Trace) : Trace.calls (.call i :: t) = i :: t.calls := rfl

@[simp] theorem calls_record (r : LogRecord) (t : Trace) : Trace.calls (.record r :: t) = t.calls := rfl

@[simp] theorem calls_nil : Trace.calls [] = [] := rfl

@[simp] theorem calls_ofRecords (records : List LogRecord) : (ofRecords records).calls = [] := by
  simp [ofRecords, calls]

end Trace

namespace Toolchain

theorem find_eq_ok_iff {locator : ToolLocator} {program : String} {plugins : List Plugin} {t : Toolchain} :
    find locator program plugins = .ok t ↔
      locator.find program = some t.protoc ∧ findPlugins locator plugins = .ok t.plugins := by
  obtain ⟨protoc, found⟩ := t
  rw [find]
  cases locator.find program with
  | none => simp
  | some path => cases findPlugins locator plugins <;> simp

end Toolchain

/-- What a run concludes, how it leaves the file system, which stages it tells of, and what it has executed. -/
structure CompileRun.Shows {σ : Type} (run : CompileRun σ) (result : Except CompileError CompileOutput)
    (files : σ) (stages : List Stage) (calls : List Invocation) : Prop where
  result : run.result = result
  files : run.files = files
  stages : run.trace.stages = stages
  calls : run.trace.calls = calls

namespace Config

variable {σ : Type} [FileSystem σ]

/-- Everything before the call of the compiler succeeds. -/
structure Prepared (c : Config) (locator : ToolLocator) (fs : σ) (paths : ResolvedPaths)
    (toolchain : Toolchain) (files : List Path) : Prop where
  valid : c.validate fs = .ok paths
  tools : c.findToolchain locator = .ok toolchain
  found : discover fs paths.protoDir = .ok files
  filled : files ≠ []
  made : (FileSystem.createDirAll fs paths.outputDir).1 = .ok ()

/-- A stage before the call of the compiler fails: with which error, behind which stages, and how the file system
    is left. -/
inductive Stops (c : Config) (locator : ToolLocator) (fs : σ) : CompileError → List Stage → σ → Prop
  | invalid {e : ConfigError} (fault : c.validate fs = .error e) : Stops c locator fs (.config e) [] fs
  | toolMissing {paths : ResolvedPaths} {e : ToolchainError} (valid : c.validate fs = .ok paths)
      (missing : c.findToolchain locator = .error (.toolchain e)) :
      Stops c locator fs (.toolchain e) [] fs
  | unlisted {paths : ResolvedPaths} {toolchain : Toolchain} {e : FileError}
      (valid : c.validate fs = .ok paths) (tools : c.findToolchain locator = .ok toolchain)
      (refused : discover fs paths.protoDir = .error e) :
      Stops c locator fs (.discovery paths.protoDir e.message) [.started] fs
  | noFiles {paths : ResolvedPaths} {toolchain : Toolchain}
      (valid : c.validate fs = .ok paths) (tools : c.findToolchain locator = .ok toolchain)
      (found : discover fs paths.protoDir = .ok []) :
      Stops c locator fs (.noProtoFiles c.protoDir) [.started] fs
  | noOutput {paths : ResolvedPaths} {toolchain : Toolchain} {files : List Path} {e : FileError}
      (valid : c.validate fs = .ok paths) (tools : c.findToolchain locator = .ok toolchain)
      (found : discover fs paths.protoDir = .ok files) (filled : files ≠ [])
      (refused : (FileSystem.createDirAll fs paths.outputDir).1 = .error e) :
      Stops c locator fs (.outputDir paths.outputDir e.message) [.started, .discovered, .resolved]
        (FileSystem.createDirAll fs paths.outputDir).2

variable {c : Config} {locator : ToolLocator} {fs : σ} {paths : ResolvedPaths} {toolchain : Toolchain}
  {files : List Path}

theorem Stops.not_prepared {e : CompileError} {passed : List Stage} {left : σ}
    (stops : Stops c locator fs e passed left) : ¬ c.Prepared locator fs paths toolchain files := by
  intro prepared
  cases stops with
  | invalid fault => cases fault.symm.trans prepared.valid
  | toolMissing valid missing => cases missing.symm.trans prepared.tools
  | unlisted valid tools refused =>
      obtain rfl := Except.ok.inj (valid.symm.trans prepared.valid)
      cases refused.symm.trans prepared.found
  | noFiles valid tools found =>
      obtain rfl := Except.ok.inj (valid.symm.trans prepared.valid)
      exact prepared.filled (Except.ok.inj (prepared.found.symm.trans found))
  | noOutput valid tools found filled refused =>
      obtain rfl := Except.ok.inj (valid.symm.trans prepared.valid)
      cases refused.symm.trans prepared.made

theorem findToolchain_eq_ok_iff :
    c.findToolchain locator = .ok toolchain ↔ Toolchain.find locator c.protoc c.pluginList = .ok toolchain := by
  rw [findToolchain]
  cases Toolchain.find locator c.protoc c.pluginList with
  | error e => simp
  | ok found => simp

theorem findToolchain_error {e : CompileError} (missing : c.findToolchain locator = .error e) :
    ∃ e', e = .toolchain e' := by
  rw [findToolchain] at missing
  split at missing
  · cases missing
  · next e' _ =>
      cases missing
      exact ⟨e', rfl⟩

theorem trace_checkToolchain :
    (c.checkToolchain locator).trace.events = [] ∧ (c.checkToolchain locator).trace.calls = [] := by
  rw [checkToolchain]
  split
  · exact ⟨Trace.events_ofRecords _, Trace.calls_ofRecords _⟩
  · exact ⟨Trace.events_ofRecords _, Trace.calls_ofRecords _⟩

/-! ## Planning within a run -/

section Planning

variable {clock : Stopwatch} {program : String}

theorem buildPlan_of_refused {e : FileError} (refused : discover fs paths.protoDir = .error e) :
    c.buildPlan fs clock paths program =
      ⟨.error (.discovery paths.protoDir e.message), [.event (.started paths.protoDir.text)]⟩ := by
  simp only [buildPlan, discoverIn, refused]

theorem buildPlan_of_noFiles (found : discover fs paths.protoDir = .ok []) :
    c.buildPlan fs clock paths program =
      ⟨.error (.noProtoFiles c.protoDir), [.event (.started paths.protoDir.text)]⟩ := by
  simp only [buildPlan, discoverIn, found]

/-- With files found there is a plan, and planning calls nothing. -/
theorem buildPlan_of_found (found : discover fs paths.protoDir = .ok files) (filled : files ≠ []) :
    (c.buildPlan fs clock paths program).value = .ok (c.planOf paths program (c.sourceSet fs paths files)) ∧
      (c.buildPlan fs clock paths program).trace.stages = [.started, .discovered, .resolved] ∧
      (c.buildPlan fs clock paths program).trace.calls = [] := by
  obtain ⟨file, rest, rfl⟩ := List.exists_cons_of_ne_nil filled
  simp only [buildPlan, discoverIn, found]
  refine ⟨rfl, ?_, ?_⟩
  · simp [Trace.stages, ProgressEvent.stage, resolutionEvent]
  · simp

end Planning

/-! ## Stages of a run -/

section Stages

variable {executor : Executor σ} {clock : Stopwatch} {p : CompilePlan}

theorem trace_replyTrace (reply : ExecReply) :
    (replyTrace clock p reply).stages = (if reply.isOk then [.compilerFinished] else []) ∧
      (replyTrace clock p reply).calls = [] := by
  cases reply with
  | error e => exact ⟨rfl, rfl⟩
  | ok done =>
      rw [replyTrace]
      cases done.success with
      | true => exact ⟨rfl, rfl⟩
      | false => exact ⟨rfl, rfl⟩

/-- What an executor answers when a plan is handed to it, its output directory being made. -/
def answer (executor : Executor σ) (fs : σ) (toolchain : Toolchain) (p : CompilePlan) :
    ExecReply × List LogRecord × σ :=
  executor (FileSystem.createDirAll fs p.outputDir).2 (invocation toolchain p)

theorem execute_of_refused {e : FileError}
    (refused : (FileSystem.createDirAll fs p.outputDir).1 = .error e) :
    (execute executor fs clock toolchain p).Shows (.error (.outputDir p.outputDir e.message))
      (FileSystem.createDirAll fs p.outputDir).2 [] [] := by
  rw [execute]
  cases made : FileSystem.createDirAll fs p.outputDir with
  | mk result left =>
      obtain rfl : result = .error e := by rw [← refused, made]
      exact ⟨rfl, rfl, rfl, rfl⟩

theorem execute_of_made (made : (FileSystem.createDirAll fs p.outputDir).1 = .ok ()) :
    (execute executor fs clock toolchain p).Shows (concludes p (answer executor fs toolchain p).1)
      (answer executor fs toolchain p).2.2
      (.compilerStarted ::
        if (answer executor fs toolchain p).1.isOk then [.compilerFinished] else [])
      [invocation toolchain p] := by
  have replied := @trace_replyTrace clock p (answer executor fs toolchain p).1
  rw [execute]
  cases directory : FileSystem.createDirAll fs p.outputDir with
  | mk result ready =>
      obtain rfl : result = .ok () := by rw [← made, directory]
      simp only [answer, directory] at replied ⊢
      refine ⟨rfl, rfl, ?_, ?_⟩
      · simpa [Trace.stages, ProgressEvent.stage] using replied.1
      · simpa using replied.2

theorem runStages_of_invalid {e : ConfigError} (fault : c.validate fs = .error e) :
    c.runStages locator executor fs clock = ⟨.error (.config e), fs, []⟩ := by
  simp only [runStages, fault]

theorem runStages_of_missing {e : CompileError} (valid : c.validate fs = .ok paths)
    (missing : c.findToolchain locator = .error e) :
    c.runStages locator executor fs clock = ⟨.error e, fs, (c.checkToolchain locator).trace⟩ := by
  simp only [runStages, valid, value_checkToolchain, missing]

theorem runStages_of_unplanned {e : CompileError} (valid : c.validate fs = .ok paths)
    (tools : c.findToolchain locator = .ok toolchain)
    (unplanned : (c.buildPlan fs clock paths toolchain.protoc.text).value = .error e) :
    c.runStages locator executor fs clock = ⟨.error e, fs,
      (c.checkToolchain locator).trace ++ (c.buildPlan fs clock paths toolchain.protoc.text).trace⟩ := by
  simp only [runStages, valid, value_checkToolchain, tools, unplanned]

theorem runStages_of_planned (valid : c.validate fs = .ok paths)
    (tools : c.findToolchain locator = .ok toolchain)
    (planned : (c.buildPlan fs clock paths toolchain.protoc.text).value = .ok p) :
    c.runStages locator executor fs clock =
      { execute executor fs clock toolchain p with
        trace := (c.checkToolchain locator).trace ++
          (c.buildPlan fs clock paths toolchain.protoc.text).trace ++
          (execute executor fs clock toolchain p).trace } := by
  simp only [runStages, valid, value_checkToolchain, tools, planned]

/-- A run that has its plan made shows what planning and executing show. -/
theorem shows_of_planned (valid : c.validate fs = .ok paths)
    (tools : c.findToolchain locator = .ok toolchain)
    (found : discover fs paths.protoDir = .ok files) (filled : files ≠ [])
    {result : Except CompileError CompileOutput} {left : σ} {stages : List Stage}
    {calls : List Invocation}
    (executed : (execute executor fs clock toolchain
        (c.planOf paths toolchain.protoc.text (c.sourceSet fs paths files))).Shows result left stages calls) :
    (c.runStages locator executor fs clock).Shows result left
      ([.started, .discovered, .resolved] ++ stages) calls := by
  obtain ⟨checkedEvents, checkedCalls⟩ := @trace_checkToolchain c locator
  obtain ⟨planned, plannedStages, plannedCalls⟩ :=
    @buildPlan_of_found _ _ c fs paths files clock toolchain.protoc.text found filled
  rw [runStages_of_planned valid tools planned]
  refine ⟨executed.result, executed.files, ?_, ?_⟩
  · rw [← executed.stages, ← plannedStages]
    simp [Trace.stages, checkedEvents]
  · rw [← executed.calls]
    simp [checkedCalls, plannedCalls]

/-- A run that stops says why, and calls nothing. -/
theorem shows_of_stops {e : CompileError} {passed : List Stage} {left : σ}
    (stops : Stops c locator fs e passed left) :
    (c.runStages locator executor fs clock).Shows (.error e) left passed [] := by
  obtain ⟨checkedEvents, checkedCalls⟩ := @trace_checkToolchain c locator
  cases stops with
  | invalid fault =>
      rw [runStages_of_invalid fault]
      exact ⟨rfl, rfl, rfl, rfl⟩
  | toolMissing valid missing =>
      rw [runStages_of_missing valid missing]
      exact ⟨rfl, rfl, congrArg _ checkedEvents, checkedCalls⟩
  | unlisted valid tools refused =>
      rw [runStages_of_unplanned valid tools (congrArg _ (buildPlan_of_refused refused)),
        buildPlan_of_refused refused]
      refine ⟨rfl, rfl, ?_, ?_⟩
      · simp [Trace.stages, checkedEvents, ProgressEvent.stage]
      · simp [checkedCalls]
  | noFiles valid tools found =>
      rw [runStages_of_unplanned valid tools (congrArg _ (buildPlan_of_noFiles found)),
        buildPlan_of_noFiles found]
      refine ⟨rfl, rfl, ?_, ?_⟩
      · simp [Trace.stages, checkedEvents, ProgressEvent.stage]
      · simp [checkedCalls]
  | noOutput valid tools found filled refused =>
      exact shows_of_planned valid tools found filled (execute_of_refused refused)

/-- A run that is prepared has its plan executed once, and concludes from the answer. -/
theorem shows_of_prepared (prepared : c.Prepared locator fs paths toolchain files)
    (plan : c.planOf paths toolchain.protoc.text (c.sourceSet fs paths files) = p) :
    (c.runStages locator executor fs clock).Shows (concludes p (answer executor fs toolchain p).1)
      (answer executor fs toolchain p).2.2
      ([.started, .discovered, .resolved] ++ .compilerStarted ::
        if (answer executor fs toolchain p).1.isOk then [.compilerFinished] else [])
      [invocation toolchain p] := by
  subst plan
  exact shows_of_planned prepared.valid prepared.tools prepared.found prepared.filled
    (execute_of_made prepared.made)

/-- A run stops, or it is prepared. -/
theorem stops_or_prepared (c : Config) (locator : ToolLocator) (fs : σ) :
    (∃ e passed left, Stops c locator fs e passed left) ∨
      ∃ paths toolchain files, c.Prepared locator fs paths toolchain files := by
  cases valid : c.validate fs with
  | error e => exact .inl ⟨_, _, _, .invalid valid⟩
  | ok paths =>
      cases tools : c.findToolchain locator with
      | error e =>
          obtain ⟨missing, rfl⟩ := findToolchain_error tools
          exact .inl ⟨_, _, _, .toolMissing valid tools⟩
      | ok toolchain =>
          cases found : discover fs paths.protoDir with
          | error e => exact .inl ⟨_, _, _, .unlisted valid tools found⟩
          | ok files =>
              by_cases filled : files = []
              · exact .inl ⟨_, _, _, .noFiles valid tools (filled ▸ found)⟩
              · cases made : (FileSystem.createDirAll fs paths.outputDir).1 with
                | error e => exact .inl ⟨_, _, _, .noOutput valid tools found filled made⟩
                | ok _ => exact .inr ⟨paths, toolchain, files, valid, tools, found, filled, made⟩

theorem events_compile :
    (c.compile locator executor fs clock).trace.events =
      (c.runStages locator executor fs clock).trace.events ++
        [finalEvent clock (c.runStages locator executor fs clock).result] :=
  Trace.events_append _ _

theorem calls_compile :
    (c.compile locator executor fs clock).trace.calls =
      (c.runStages locator executor fs clock).trace.calls := by
  simp [compile]

/-- A run that is prepared hands its plan to the executor. -/
theorem calls_of_prepared (executor : Executor σ) (clock : Stopwatch)
    (prepared : c.Prepared locator fs paths toolchain files) :
    (c.compile locator executor fs clock).trace.calls =
      [invocation toolchain (c.planOf paths toolchain.protoc.text (c.sourceSet fs paths files))] :=
  calls_compile.trans (shows_of_prepared prepared rfl).calls

theorem concludes_eq_ok {reply : ExecReply} {out : CompileOutput} :
    concludes p reply = .ok out ↔ ∃ done, reply = .ok done ∧ done.success ∧ out = ⟨done.output, p⟩ := by
  cases reply with
  | error e => simp [concludes]
  | ok done =>
      simp only [concludes, Except.ok.injEq, exists_eq_left']
      cases done.success with
      | true => simp [eq_comm]
      | false => simp

theorem concludes_eq_exec {reply : ExecReply} {e : ExecError} :
    concludes p reply = .error (.exec e) ↔ reply = .error e := by
  cases reply with
  | error other => simp [concludes]
  | ok done =>
      simp only [concludes]
      split <;> simp

end Stages

/-! ## Plans of runs -/

/-- A run that succeeds has a plan for the compiler that was found. -/
theorem plans_of_compile {executor : Executor σ} {clock : Stopwatch} {out : CompileOutput}
    (succeeds : (c.compile locator executor fs clock).result = .ok out) :
    ∃ program, c.Plans fs program out.plan := by
  rcases stops_or_prepared c locator fs with ⟨e, passed, left, stops⟩ | ⟨paths, toolchain, files, prepared⟩
  · cases succeeds.symm.trans (shows_of_stops stops).result
  · have concluded := succeeds.symm.trans (shows_of_prepared prepared rfl).result
    obtain ⟨done, -, -, rfl⟩ := concludes_eq_ok.mp concluded.symm
    exact ⟨toolchain.protoc.text, paths, files, prepared.valid, prepared.found, prepared.filled, rfl⟩

/-- A plan that a configuration gives, on its own or in the outcome of a run. -/
def Gives (c : Config) (fs : σ) (p : CompilePlan) : Prop :=
  (∃ clock, (c.plan fs clock).value = .ok p) ∨
    ∃ locator executor clock out, (c.compile locator executor fs clock).result = .ok out ∧ out.plan = p

theorem Gives.plans {p : CompilePlan} (gives : c.Gives fs p) : ∃ program, c.Plans fs program p := by
  rcases gives with ⟨clock, planned⟩ | ⟨locator, executor, clock, out, succeeds, rfl⟩
  · exact ⟨c.protoc, plan_eq_ok.mp planned⟩
  · exact plans_of_compile succeeds

end Config

end ProtoTree
