import ProtoTree.Compiler
import ProtoTree.Log.Setup
import ProtoTree.CommandLine.Shown

/-! # Running requests

What the program prints for a request, how it exits, and how it leaves the
file system.
-/

namespace ProtoTree

/-- The name of the program. -/
def programName : String := "protosweep"

/-- The version of the program. -/
def programVersion : String := "0.3.0"

/-- How a run of the program ends. -/
inductive ExitStatus where
  | ok
  | failure
  /-- The configuration cannot be used. -/
  | configuration
  deriving DecidableEq, Repr, Inhabited

def ExitStatus.code : ExitStatus → Nat
  | ok => 0
  | failure => 1
  | configuration => 2

/-- What a run of the program leaves. -/
structure ProgramRun (σ : Type) where
  exit : ExitStatus
  output : String
  errors : List ErrorLine
  files : σ

/-- What a request is carried out with. -/
structure Workplace (σ : Type) where
  env : Environment
  files : σ
  /-- Runs programs within a time limit. -/
  executor : Option Duration → Executor σ
  clock : Stopwatch := {}

namespace Workplace

variable {σ : Type} [FileSystem σ]

/-- Finds tools in the directories of the environment's search path. -/
def locator (w : Workplace σ) : ToolLocator :=
  .overDirs w.files (((w.env.lookup "PATH").map splitSearchPath).getD [])

end Workplace

namespace Request

variable {σ : Type} [FileSystem σ]

/-- The log of a request, and what is printed about its level. -/
def logSetup (r : Request) (env : Environment) : LogSetup × List ErrorLine :=
  match r.logLevel with
  | some name => ({ level := .ofName name, useJson := env.logJson }, Level.notices name)
  | none =>
    if r.quiet then ({ level := .error, useJson := env.logJson }, [])
    else (env.logSetup, Level.notices env.logLevel)

/-- The first records of every run. -/
def openingRecords (r : Request) : List LogRecord :=
  [{ level := .debug, target := "protosweep"
     message := s!"{programName} v{programVersion} starting" },
   { level := .debug, target := "protosweep", message := "Arguments: " ++ r.text }]

def handlerRecord (level : Level) (message : String) (fields : List (String × LogValue)) : LogRecord :=
  { level, target := "protosweep::cli::handlers", message, fields }

/-- What helps with an error, besides its message. -/
def advice : CompileError → List ErrorLine
  | .toolchain e =>
    [.plain ("\n" ++ e.remediation),
      .plain s!"Run '{programName} check' to see which tools are available"]
  | .noProtoFiles _ =>
    [.plain "\nCheck --proto-dir; only files ending in .proto are considered"]
  | .config _ =>
    [.plain "\nPlease check your command-line arguments and PROTOSWEEP_* environment variables."]
  | _ => []

/-- What an error prints. -/
def errorLines (log : LogSetup) (e : CompileError) : List ErrorLine :=
  log.write (handlerRecord .error e.message []) ++ advice e

def exitStatus (e : CompileError) : ExitStatus :=
  if e.isConfigError then .configuration else .failure

/-- The lines of a trace, its events logged as progress. -/
def traceLines (log : LogSetup) (verbose : Bool) (t : Trace) : List ErrorLine :=
  log.writeAll (t.records (ProgressEvent.records verbose))

/-- Runs the compiler. -/
def compile (w : Workplace σ) (log : LogSetup) (quiet : Bool) (c : Config) : ProgramRun σ :=
  let run := c.compile w.locator (w.executor c.timeout) w.files w.clock
  let opening := log.write (handlerRecord .debug ("Using configuration:\n" ++ c.text) [])
  let lines := opening ++ traceLines log c.verbose run.trace
  match run.result with
  | .ok done =>
    { exit := .ok, output := if quiet then "" else done.output
      errors := lines ++ log.write (handlerRecord .info "Generated code"
        [("files", .number done.plan.compileSet.length),
          ("output_dir", .shown done.plan.outputDir.text)])
      files := run.files }
  | .error e =>
    { exit := exitStatus e, output := "", errors := lines ++ errorLines log e, files := run.files }

/-- What a report leaves that cannot be written. -/
def unreported (w : Workplace σ) (lines : List ErrorLine) (log : LogSetup) (message : String) : ProgramRun σ :=
  { exit := .failure, output := "", errors := lines ++ log.write (handlerRecord .error message []), files := w.files }

/-- Shows the plan. -/
def plan (w : Workplace σ) (log : LogSetup) (format : ReportFormat) (c : Config) : ProgramRun σ :=
  let planned := c.plan w.files w.clock
  let lines := traceLines log c.verbose planned.trace
  match planned.value with
  | .ok plan =>
    match Report.plan format plan with
    | .ok report => { exit := .ok, output := report ++ "\n", errors := lines, files := w.files }
    | .error reason => unreported w lines log s!"Failed to format plan: {reason}"
  | .error e =>
    { exit := exitStatus e, output := "", errors := lines ++ errorLines log e, files := w.files }

/-- Reports which tools are there. -/
def check (w : Workplace σ) (log : LogSetup) (format : ReportFormat) (c : Config) : ProgramRun σ :=
  let statuses := c.toolStatuses w.locator
  let missing := statuses.countP ToolStatus.isMissing
  let lines := log.writeAll (c.programs.flatMap w.locator.records)
  match Report.tools format statuses with
  | .error reason => unreported w lines log s!"Failed to format tool report: {reason}"
  | .ok report =>
    let output := report ++ "\n"
    if missing > 0 then
      { exit := .failure, output, files := w.files
        errors := lines ++ log.write
          (handlerRecord .warn "Some tools are not installed" [("missing", .number missing)]) }
    else { exit := .ok, output, errors := lines, files := w.files }

/-- Carries out the task of a request. -/
def perform (r : Request) (w : Workplace σ) (log : LogSetup) : ProgramRun σ :=
  match r.task with
  | .compile source timeout =>
    compile w log r.quiet (source.compileSettings w.env r.verbose timeout).build
  | .plan source format => plan w log format (source.settings w.env r.verbose).build
  | .check plugins protoc format => check w log format (checkSettings w.env plugins protoc).build

/-- Carries out a request. -/
def run (r : Request) (w : Workplace σ) : ProgramRun σ :=
  let (log, notices) := r.logSetup w.env
  let done := r.perform w log
  { done with errors := notices ++ log.writeAll r.openingRecords ++ done.errors }

end Request

end ProtoTree
