import ProtoTree.Process
import ProtoTree.Proofs.FileSystem.Disk
import ProtoTree.Proofs.Run

/-! # How processes end

A program is the first file in the search that can be started. A process that
is started ends by itself, or it is called off, or its time is up: the reply,
the log and the cancellation all tell of the same one of the three. The program
itself stays in its directory, wherever its tools are started.
-/

namespace ProtoTree

namespace ProcessRun

variable {host : Option Shell.Host} {env : Environment} {disk : Disk} {i : Invocation}
  {timeout : Option Duration}

/-! ## Starting -/

/-- The first candidate that can be started is taken, if the search goes on after the errors of those before it. -/
theorem firstLoaded_eq_ok_iff {last : SystemError} {files : List Path} {loaded : Shell.Loaded} :
    firstLoaded disk last files = .ok loaded ↔
      ∃ before file after, files = before ++ file :: after ∧
        Shell.load Shell.interpreterLimit disk (.ofBytes file.bytes) = .ok loaded ∧
        ∀ other ∈ before, ∃ e,
          Shell.load Shell.interpreterLimit disk (.ofBytes other.bytes) = .error e ∧ passesOver e := by
  induction files generalizing last with
  | nil => simp [firstLoaded]
  | cons file rest ih =>
      rw [firstLoaded]
      constructor
      · intro found
        split at found
        · next first =>
            cases found
            exact ⟨[], file, rest, rfl, first, List.forall_mem_nil _⟩
        · next e refused =>
            split at found
            · next passes =>
                obtain ⟨before, chosen, after, rfl, starts, missed⟩ := ih.mp found
                exact ⟨file :: before, chosen, after, rfl, starts,
                  List.forall_mem_cons.mpr ⟨⟨e, refused, passes⟩, missed⟩⟩
            · cases found
      · rintro ⟨before, chosen, after, parts, starts, missed⟩
        cases before with
        | nil =>
            cases parts
            rw [starts]
        | cons other before =>
            obtain ⟨rfl, rfl⟩ := List.cons.inj parts
            obtain ⟨⟨e, refused, passes⟩, missed⟩ := List.forall_mem_cons.mp missed
            rw [refused]
            simp only [passes, if_true]
            exact ih.mpr ⟨before, chosen, after, rfl, starts, missed⟩

/-! ## Ending -/

/-- What may become of an invocation. Without a process the disk is left alone; a process leaves the program in its
    directory. -/
inductive Ends (disk : Disk) (i : Invocation) (timeout : Option Duration) (cancellation : Cancellation) :
    ProcessRun → Prop
  | unasked (calledOff : cancellation = .beforehand) :
      Ends disk i timeout cancellation ⟨.error .cancelled, [], disk, true⟩
  | unstarted (cause : IOFailure) :
      Ends disk i timeout cancellation ⟨.error (.spawn i.program.text cause), [spawnRecord i], disk, false⟩
  | byItself (out : ExecOutput) (after : Disk) (stays : after.cwd = disk.cwd) :
      Ends disk i timeout cancellation ⟨.ok out, [spawnRecord i], after, false⟩
  | inTime (limit : Duration) (after : Disk) (given : timeout = some limit) (stays : after.cwd = disk.cwd) :
      Ends disk i timeout cancellation
        ⟨.error (.timedOut limit),
          [spawnRecord i, record .warn "Compiler run timed out; killing process"
            [("timeout_ms", .number limit.toMillis)]], after, false⟩
  | calledOff (ms : Nat) (after : Disk) (given : cancellation = .after ms) (stays : after.cwd = disk.cwd) :
      Ends disk i timeout cancellation
        ⟨.error .cancelled, [spawnRecord i, record .warn "Compiler run cancelled; killing process" []], after, true⟩

/-- A process that is given no moment for it is not called off. -/
theorem ends_conclude {cancellation : Cancellation} (s : Shell.State) {cancel : Option Nat}
    (given : ∀ moment ∈ cancel, ∃ ms, cancellation = .after ms) :
    Ends disk i timeout cancellation (conclude i disk s timeout cancel) := by
  simp only [conclude]
  split
  · exact .byItself _ _ rfl
  · next late =>
      cases cancel with
      | some moment =>
          obtain ⟨ms, rfl⟩ := given moment rfl
          split
          · split
            · exact .inTime _ _ rfl rfl
            · exact .calledOff ms _ rfl rfl
          · exact .calledOff ms _ rfl rfl
      | none =>
          cases timeout with
          | some limit => exact .inTime limit _ rfl rfl
          | none => exact absurd (by simp) late

theorem ends_perform (host : Option Shell.Host) (env : Environment) (timeout : Option Duration)
    (cancellation : Cancellation) (disk : Disk) (i : Invocation) :
    Ends disk i timeout cancellation (perform host env timeout cancellation disk i) := by
  cases cancellation with
  | beforehand => exact .unasked rfl
  | never | after =>
      simp only [perform]
      split
      · exact .unstarted _
      split
      · exact .unstarted _
      split
      · exact .unstarted _
      · exact ends_conclude _ (by simp)

/-- The reply of a run that is called off says so, and no other one does. -/
theorem Ends.cancelled_iff {cancellation : Cancellation} {run : ProcessRun}
    (ends : Ends disk i timeout cancellation run) : run.cancelled ↔ run.reply = .error .cancelled := by
  cases ends <;> simp

/-- A program that cannot be started is named in the reply, and nothing has changed. -/
theorem Ends.disk_of_spawn {cancellation : Cancellation} {run : ProcessRun} {program : String} {cause : IOFailure}
    (ends : Ends disk i timeout cancellation run) (refused : run.reply = .error (.spawn program cause)) :
    program = i.program.text ∧ run.disk = disk := by
  cases ends with
  | unstarted other =>
      cases refused
      exact ⟨rfl, rfl⟩
  | unasked | byItself | inTime | calledOff => cases refused

theorem Ends.cwd {cancellation : Cancellation} {run : ProcessRun} (ends : Ends disk i timeout cancellation run) :
    run.disk.cwd = disk.cwd := by
  cases ends with
  | unasked | unstarted => rfl
  | byItself _ _ stays | inTime _ _ _ stays | calledOff _ _ _ stays => exact stays

end ProcessRun

/-! ## Processes as an executor -/

/-- Nothing calls a process of a run off, and its time is up only where there is a limit. -/
theorem reply_processExecutor (host : Option Shell.Host) (env : Environment) (timeout : Option Duration)
    (disk : Disk) (i : Invocation) :
    (processExecutor host env timeout disk i).1 ≠ .error .cancelled ∧
      ∀ limit, (processExecutor host env timeout disk i).1 = .error (.timedOut limit) → timeout = some limit := by
  have ends := ProcessRun.ends_perform host env timeout .never disk i
  rw [processExecutor]
  generalize ProcessRun.perform host env timeout .never disk i = run at ends
  cases ends with
  | unasked never | calledOff _ _ never => cases never
  | unstarted | byItself => simp
  | inTime limit _ given => simpa using given

namespace Config

/-- What making directories and carrying out invocations keep, a whole run keeps. -/
theorem kept_compile {σ : Type} [FileSystem σ] {kept : σ → Prop} {executor : Executor σ}
    (making : ∀ fs p, kept fs → kept (FileSystem.createDirAll fs p).2)
    (carrying : ∀ fs i, kept fs → kept (executor fs i).2.2) (c : Config) (locator : ToolLocator) (clock : Stopwatch)
    {fs : σ} (start : kept fs) : kept (c.compile locator executor fs clock).files := by
  rcases stops_or_prepared c locator fs with ⟨e, passed, left, stops⟩ | ⟨paths, toolchain, files, prepared⟩
  · have files := (@shows_of_stops _ _ c locator fs executor clock e passed left stops).files
    refine files ▸ ?_
    cases stops with
    | invalid | toolMissing | unlisted | noFiles => exact start
    | noOutput => exact making fs _ start
  · have files := (@shows_of_prepared _ _ c locator fs paths toolchain files executor clock _ prepared rfl).files
    exact files ▸ carrying _ _ (making fs _ start)

/-- No run over processes is reported as called off, and one runs out of time only where there is a limit. -/
theorem result_compile_processes (host : Option Shell.Host) (env : Environment) (timeout : Option Duration) (c : Config)
    (locator : ToolLocator) (disk : Disk) (clock : Stopwatch) {e : ExecError}
    (failed : (c.compile locator (processExecutor host env timeout) disk clock).result = .error (.exec e)) :
    e ≠ .cancelled ∧ ∀ limit, e = .timedOut limit → timeout = some limit := by
  rcases stops_or_prepared c locator disk with ⟨other, passed, left, stops⟩ | ⟨paths, toolchain, files, prepared⟩
  · have stopped := failed.symm.trans (shows_of_stops stops).result
    cases stops <;> cases stopped
  · have concluded := failed.symm.trans (shows_of_prepared prepared rfl).result
    have replied := concludes_eq_exec.mp concluded.symm
    obtain ⟨unasked, limited⟩ := reply_processExecutor host env timeout
      (FileSystem.createDirAll disk paths.outputDir).2
      (invocation toolchain (c.planOf paths toolchain.protoc.text (c.sourceSet disk paths files)))
    exact ⟨fun called => unasked (replied.trans (congrArg _ called)),
      fun limit late => limited limit (replied.trans (congrArg _ late))⟩

/-- Wherever its tools are started and whatever becomes of them, the program stays in its directory. -/
theorem cwd_compile (host : Option Shell.Host) (env : Environment) (timeout : Option Duration) (c : Config)
    (locator : ToolLocator) (disk : Disk) (clock : Stopwatch) :
    (c.compile locator (processExecutor host env timeout) disk clock).files.cwd = disk.cwd := by
  refine @kept_compile Disk _ (fun d => d.cwd = disk.cwd) _ (fun d p same => ?_) (fun d i same => ?_) c locator clock
    disk rfl
  · exact (Disk.cwd_makeAllDirs d p).trans same
  · exact (ProcessRun.ends_perform host env timeout .never d i).cwd.trans same

end Config

end ProtoTree
