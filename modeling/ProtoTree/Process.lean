import ProtoTree.Compiler
import ProtoTree.Shell.Run

/-! # Processes

Invocations carried out on a disk. A process has an end, a time limit or a
cancellation ahead of it, and the earliest of them decides.
-/

namespace ProtoTree

/-- When a run is called off, in milliseconds after its start. -/
inductive Cancellation where
  | never
  | beforehand
  | after (ms : Nat)
  deriving DecidableEq, Repr, Inhabited

/-- What became of an invocation. -/
structure ProcessRun where
  reply : ExecReply
  records : List LogRecord
  disk : Disk
  /-- Whether the cancellation came before the run was over. -/
  cancelled : Bool

namespace ProcessRun

/-- The environment as variables of a script. -/
def bindings (env : Environment) : List (Text.Octets × Shell.Variable) :=
  env.map fun (name, value) =>
    (Text.Octets.ofString name, { value := some (Text.Octets.ofString value), exported := true })

/-- The files that may hold a program: the path itself, or a file of its name in each search directory. -/
def candidates (env : Environment) (program : Path) : List Path :=
  if program.bytes.contains Path.slash then [program]
  else if program.isEmpty then []
  else
    Shell.searched (((env.lookup "PATH").map splitSearchPath).getD []) program

/-- Whether a search goes on after this error. -/
def passesOver (e : SystemError) : Bool :=
  e = .notFound || e = .notDirectory || e = .accessDenied

/-- What the first candidate that can be started comes down to. When there is none, a lack of permission on the
    way is reported before `last`, the error of the latest candidate. -/
def firstLoaded (disk : Disk) (last : SystemError) :
    List Path → Except SystemError Shell.Loaded
  | [] => .error last
  | file :: rest =>
    match Shell.load Shell.interpreterLimit disk (Text.Octets.ofBytes file.bytes) with
    | .ok loaded => .ok loaded
    | .error e =>
      if passesOver e then firstLoaded disk (if last = .accessDenied then last else e) rest
      else .error e

/-- The state of a process at its start, with the signals that its jobs are to know of ahead. -/
def startOf (host : Option Shell.Host) (env : Environment) (disk : Disk) (i : Invocation)
    (foretold : List Shell.Sent) : Shell.State where
  world := { disk, host, sent := foretold, foretold }
  name := Text.Octets.ofBytes i.program.bytes
  bindings := bindings env
  process := Shell.State.firstProcess
  shell := Shell.State.firstProcess

/-- How many signals may surprise the jobs of a process. -/
def surpriseLimit : Nat := 8

/-- The state when a process has run to its end. A job runs before what comes behind it, so when a signal for an
    action of a job turns up later, all is run once more with that signal known ahead. -/
def finalState (host : Option Shell.Host) (env : Environment) (disk : Disk) (i : Invocation)
    (loaded : Shell.Loaded) : Shell.State :=
  go surpriseLimit []
where
  /-- The state in the end, when some signals are known ahead. -/
  go (rounds : Nat) (foretold : List Shell.Sent) : Shell.State :=
    let s := Shell.runLoaded Shell.stepLimit (startOf host env disk i foretold)
      (Text.Octets.ofBytes i.program.bytes) loaded (i.args.map Text.Octets.ofString)
    match rounds, s.world.surprises.getLast? with
    | rounds + 1, some surprise => go rounds (surprise :: foretold)
    | _, _ => s

/-- What a process leaves that ended by itself. -/
def outputOf (s : Shell.State) : ExecOutput where
  output := Text.decodeText (s.printedTo .output) ++ Text.decodeText (s.printedTo .errors)
  exitCode := match s.outcome with
    | .exited status => some status
    | .killed _ => none
  success := s.outcome = .exited 0

/-- The nanoseconds after which a process has ended by itself and nothing holds its output, if that comes. -/
def endOf (s : Shell.State) : Option Nat :=
  if s.flow = .endless then none else s.letGo fun channel => channel = .output || channel = .errors

/-- Whether a moment comes, and before another one. -/
def isBefore (a b : Option Nat) : Bool :=
  match a, b with
  | some m, some n => m < n
  | some _, none => true
  | none, _ => false

def record (level : Level) (message : String) (fields : List (String × LogValue)) : LogRecord :=
  { level, target := "protosweep::executor", message, fields }

def spawnRecord (i : Invocation) : LogRecord :=
  record .debug "Spawning compiler"
    [("program", .shown i.program.text), ("args", .number i.args.length),
      ("cwd", .shown i.workingDir.text)]

/-- The outcome of a process, given when it is called off and when its time is up. -/
def conclude (i : Invocation) (disk : Disk) (s : Shell.State) (timeout : Option Duration)
    (cancel : Option Nat) : ProcessRun :=
  let limit := timeout.map fun d => d.secs * 1000000000 + d.nanos
  let after : Disk := { s.world.disk with cwd := disk.cwd }
  if isBefore (endOf s) limit && isBefore (endOf s) cancel || limit.isNone && cancel.isNone then
    ⟨.ok (outputOf s), [spawnRecord i], after, false⟩
  else
    match timeout with
    | some d =>
      if isBefore limit cancel then
        ⟨.error (.timedOut d),
          [spawnRecord i,
            record .warn "Compiler run timed out; killing process"
              [("timeout_ms", .number d.toMillis)]], after, false⟩
      else
        ⟨.error .cancelled,
          [spawnRecord i, record .warn "Compiler run cancelled; killing process" []], after, true⟩
    | none =>
      ⟨.error .cancelled,
        [spawnRecord i, record .warn "Compiler run cancelled; killing process" []], after, true⟩

/-- A process that could not be started. -/
def unstarted (i : Invocation) (disk : Disk) (cause : IOFailure) : ProcessRun :=
  ⟨.error (.spawn i.program.text cause), [spawnRecord i], disk, false⟩

/-- Whether a zero character keeps an invocation from being handed over. -/
def hasZero (i : Invocation) : Bool :=
  i.program.bytes.contains 0 || i.workingDir.bytes.contains 0 || i.args.any fun arg => arg.toList.contains '\x00'

/-- Carries out an invocation, for a program that can be started once more if it is given. -/
def perform (host : Option Shell.Host) (env : Environment) (timeout : Option Duration)
    (cancellation : Cancellation) (disk : Disk) (i : Invocation) : ProcessRun :=
  let run (cancel : Option Nat) : ProcessRun :=
    if hasZero i then unstarted i disk (.custom "nul byte found in provided data")
    else
      match disk.enter i.workingDir with
      | .error e => unstarted i disk (.system e)
      | .ok inside =>
        match firstLoaded inside .notFound (candidates env i.program) with
        | .error e => unstarted i disk (.system e)
        | .ok loaded => conclude i disk (finalState host env inside i loaded) timeout cancel
  match cancellation with
  | .beforehand => ⟨.error .cancelled, [], disk, true⟩
  | .never => run none
  | .after ms => run (some (ms * 1000000))

end ProcessRun

/-- Carries out invocations as processes on a disk. -/
def processExecutor (host : Option Shell.Host) (env : Environment) (timeout : Option Duration) : Executor Disk :=
  fun disk i =>
  let run := ProcessRun.perform host env timeout .never disk i
  (run.reply, run.records, run.disk)

end ProtoTree
