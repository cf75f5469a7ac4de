import ProtoTree.Command
import ProtoTree.CompileError
import ProtoTree.Progress
import ProtoTree.Source.Discovery

/-! # Compile runs

One run from configuration to compiler output: validate, find the tools,
discover, resolve, assemble, make the output directory, execute. A run leaves
a trace of its events, its log records and the programs it had executed.
-/

namespace ProtoTree

/-- One entry of a run's trace. -/
inductive TraceStep where
  | event (e : ProgressEvent)
  | record (r : LogRecord)
  | call (i : Invocation)
  deriving DecidableEq, Repr, Inhabited

/-- What a run did, in order. -/
abbrev Trace := List TraceStep

namespace Trace

def ofRecords (records : List LogRecord) : Trace := records.map .record

def events (t : Trace) : List ProgressEvent :=
  t.filterMap fun
    | .event e => some e
    | _ => none

def calls (t : Trace) : List Invocation :=
  t.filterMap fun
    | .call i => some i
    | _ => none

/-- Log records in order; `show` says how an event is logged. -/
def records (show_ : ProgressEvent → List LogRecord) (t : Trace) : List LogRecord :=
  t.flatMap fun
    | .event e => show_ e
    | .record r => [r]
    | .call _ => []

end Trace

/-- A value with the trace of how it came about. -/
structure Traced (α : Type) where
  value : α
  trace : Trace := []
  deriving Repr

/-- Readings of the clock, in milliseconds. -/
structure Stopwatch where
  scan : Nat := 0
  run : Nat := 0
  total : Nat := 0
  deriving Repr, Inhabited

/-- Runs an invocation on a file system; says what came back, what was logged, and how the file system is left. -/
abbrev Executor (σ : Type) := σ → Invocation → ExecReply × List LogRecord × σ

/-- What a successful run gives. -/
structure CompileOutput where
  /-- What the compiler printed. -/
  output : String
  plan : CompilePlan
  deriving DecidableEq, Repr, Inhabited

/-- The outcome of a run, the file system after it, and its trace. -/
structure CompileRun (σ : Type) where
  result : Except CompileError CompileOutput
  files : σ
  trace : Trace

namespace Config

variable {σ : Type} [FileSystem σ]

/-- The proto files below the resolved proto directory. -/
def discoverIn (fs : σ) (paths : ResolvedPaths) : Except CompileError (List Path) :=
  match discover fs paths.protoDir with
  | .ok files => .ok files
  | .error e => .error (.discovery paths.protoDir e.message)

/-- Every proto file below the proto directory, in path order. -/
def findFiles (c : Config) (fs : σ) : Except CompileError (List Path) :=
  match c.validate fs with
  | .error e => .error (.config e)
  | .ok paths => discoverIn fs paths

/-- The compiler and the generators that the configuration needs. -/
def findToolchain (c : Config) (locator : ToolLocator) : Except CompileError Toolchain :=
  match Toolchain.find locator c.protoc c.pluginList with
  | .ok found => .ok found
  | .error e => .error (.toolchain e)

/-- The status of every tool that the configuration needs. -/
def toolStatuses (c : Config) (locator : ToolLocator) : List ToolStatus :=
  ToolStatus.check locator c.protoc c.pluginList

/-- The programs that the configuration needs. -/
def programs (c : Config) : List String := Toolchain.programs c.protoc c.pluginList

/-- Looks for the compiler and the generators, and logs what is found. -/
def checkToolchain (c : Config) (locator : ToolLocator) : Traced (Except CompileError Toolchain) :=
  let searched := Toolchain.searchRecords locator c.programs
  match c.findToolchain locator with
  | .ok toolchain => ⟨.ok toolchain, Trace.ofRecords (searched ++ [toolchain.foundRecord])⟩
  | .error e => ⟨.error e, Trace.ofRecords searched⟩

/-- How the configuration's source set is resolved. -/
def sourceSetRequest (c : Config) (paths : ResolvedPaths) : SourceSetRequest where
  base := paths.base
  primary := paths.workspaceDir
  extra := paths.protoPaths
  maxAscent := c.maxAscent
  detectImports := c.autoDetectImports

/-- Notes about files that could not be read, imports that lead nowhere, and the fallback, in this order. -/
def resolutionNotes (s : SourceSet) : List Diagnostic :=
  (s.files.filterMap fun f => f.scanError.map fun e => .unreadableFile f.path e)
    ++ (s.graph.unresolved.map fun e => .unresolvedImport e.source e.literal)
    ++ (if s.inclusion.fallbackApplied then [.filterFallback s.files.length] else [])

/-- What the command line of a source set is made from. -/
def commandRequest (c : Config) (paths : ResolvedPaths) (s : SourceSet) : CommandRequest where
  primaryRoot := paths.workspaceDir
  outputDir := paths.outputDir
  outputs := c.pluginOutputs
  roots := s.roots
  files := s.inclusion.compile

/-- The plan for a source set. -/
def planOf (c : Config) (paths : ResolvedPaths) (program : String) (s : SourceSet) : CompilePlan :=
  let command := c.commandRequest paths s
  { program
    workingDir := paths.workspaceDir
    primaryRoot := paths.workspaceDir
    outputDir := paths.outputDir
    roots := s.roots
    discovered := s.files.length
    compileSet := s.inclusion.compile
    omitted := s.inclusion.omitted
    diagnostics := resolutionNotes s ++ command.diagnostics
    fallbackApplied := s.inclusion.fallbackApplied
    args := command.args }

/-- The event that tells what a plan holds. -/
def resolutionEvent (p : CompilePlan) : ProgressEvent :=
  .resolutionComplete p.compileSet.length p.omitted.length p.roots.length p.diagnostics

/-- Works out the plan for validated paths. -/
def buildPlan (c : Config) (fs : σ) (clock : Stopwatch) (paths : ResolvedPaths) (program : String) :
    Traced (Except CompileError CompilePlan) :=
  let started := TraceStep.event (.started paths.protoDir.text)
  match discoverIn fs paths with
  | .error e => ⟨.error e, [started]⟩
  | .ok [] => ⟨.error (.noProtoFiles c.protoDir), [started]⟩
  | .ok files =>
    let set := (c.sourceSetRequest paths).resolve fs files
    let plan := c.planOf paths program set
    ⟨.ok plan,
      started :: .event (.discoveryComplete files clock.scan) :: Trace.ofRecords set.records
        ++ Trace.ofRecords (c.commandRequest paths set).records ++ [.event (resolutionEvent plan)]⟩

/-- Works out the plan without looking for tools and without running anything. -/
def plan (c : Config) (fs : σ) (clock : Stopwatch) : Traced (Except CompileError CompilePlan) :=
  match c.validate fs with
  | .error e => ⟨.error (.config e), []⟩
  | .ok paths => c.buildPlan fs clock paths c.protoc

/-- The invocation of a plan with the program that was found. -/
def invocation (toolchain : Toolchain) (plan : CompilePlan) : Invocation :=
  ⟨toolchain.protoc, plan.args, plan.workingDir⟩

/-- What an execution means for a run. -/
def concludes (plan : CompilePlan) : ExecReply → Except CompileError CompileOutput
  | .error e => .error (.exec e)
  | .ok done =>
    if done.success then .ok ⟨done.output, plan⟩
    else .error (.compilerFailed done.exitCode done.output)

/-- The steps that follow an execution. -/
def replyTrace (clock : Stopwatch) (plan : CompilePlan) : ExecReply → Trace
  | .error _ => []
  | .ok done =>
    .event (.compilerFinished done.success done.output clock.run) ::
      if done.success then
        [.record
          { level := .info, target := "protosweep::compiler", message := "protoc completed"
            fields := [("files", .number plan.compileSet.length)] }]
      else []

/-- Makes the output directory and executes a plan. -/
def execute (execute : Executor σ) (fs : σ) (clock : Stopwatch) (toolchain : Toolchain)
    (plan : CompilePlan) : CompileRun σ :=
  match FileSystem.createDirAll fs plan.outputDir with
  | (.error e, left) => ⟨.error (.outputDir plan.outputDir e.message), left, []⟩
  | (.ok _, ready) =>
    let (reply, records, after) := execute ready (invocation toolchain plan)
    ⟨concludes plan reply, after,
      .event (.compilerStarted plan.commandLine) :: .call (invocation toolchain plan) ::
        Trace.ofRecords records ++ replyTrace clock plan reply⟩

/-- The stages of a run up to its outcome. -/
def runStages (c : Config) (locator : ToolLocator) (executor : Executor σ) (fs : σ)
    (clock : Stopwatch) : CompileRun σ :=
  match c.validate fs with
  | .error e => ⟨.error (.config e), fs, []⟩
  | .ok paths =>
    let checked := c.checkToolchain locator
    match checked.value with
    | .error e => ⟨.error e, fs, checked.trace⟩
    | .ok toolchain =>
      let planned := c.buildPlan fs clock paths toolchain.protoc.text
      match planned.value with
      | .error e => ⟨.error e, fs, checked.trace ++ planned.trace⟩
      | .ok plan =>
        let run := execute executor fs clock toolchain plan
        { run with trace := checked.trace ++ planned.trace ++ run.trace }

/-- The event that ends a run. -/
def finalEvent (clock : Stopwatch) : Except CompileError CompileOutput → ProgressEvent
  | .ok _ => .completed clock.total
  | .error e => .failed e.message

/-- A whole run. -/
def compile (c : Config) (locator : ToolLocator) (executor : Executor σ) (fs : σ)
    (clock : Stopwatch) : CompileRun σ :=
  let run := c.runStages locator executor fs clock
  { run with trace := run.trace ++ [.event (finalEvent clock run.result)] }

end Config

end ProtoTree
