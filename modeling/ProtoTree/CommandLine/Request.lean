import ProtoTree.Config.Basic
import ProtoTree.Report

/-! # Requests of the command line

What the arguments of the program ask for, once they are read, and the
settings that follow.
-/

namespace ProtoTree

/-- The options that choose a proto tree and how it is compiled. -/
structure SourceOptions where
  protoDir : Path
  workspaceDir : Option Path
  outputDir : Path
  protoPaths : List Path
  plugins : List String
  goOptions : List String
  goGrpcOptions : List String
  /-- Single options of any generator, in the order given. -/
  pluginOptions : List (String × String)
  /-- Every discovered file is listed. -/
  listAll : Bool
  maxAscent : Option Nat
  protoc : Option String
  deriving DecidableEq, Repr, Inhabited

namespace SourceOptions

/-- Options gathered by generator, in the order the generators first come up. -/
def groupOptions (options : List (String × String)) : List (String × List String) :=
  (ImportGraph.distinctBy id (options.map (·.1))).map fun name =>
    (name, (options.filter fun o => o.1 == name).map (·.2))

/-- The changes that the options make to the settings. -/
def changes (o : SourceOptions) (verbose : Bool) : List Setting :=
  [.protoDir o.protoDir, .outputDir o.outputDir, .protoPaths o.protoPaths, .plugins o.plugins,
    .pluginOptions "go" o.goOptions, .pluginOptions "go-grpc" o.goGrpcOptions, .verbose verbose]
  ++ (o.workspaceDir.map Setting.workspaceDir).toList
  ++ (if o.listAll then [.autoDetectImports false] else [])
  ++ (o.maxAscent.map Setting.maxAscent).toList
  ++ (o.protoc.map Setting.protoc).toList
  ++ (groupOptions o.pluginOptions).map fun (name, options) => .pluginOptions name options

/-- The environment's settings with the options on top. -/
def settings (o : SourceOptions) (env : Environment) (verbose : Bool) : Settings :=
  (Settings.ofEnvironment env).applyAll (o.changes verbose)

end SourceOptions

/-- What the program is asked to do. -/
inductive Task where
  /-- Run the compiler; a time limit in seconds goes before the environment's. -/
  | compile (source : SourceOptions) (timeout : Option Nat)
  /-- Show the invocation without running it. -/
  | plan (source : SourceOptions) (format : ReportFormat)
  /-- Report which tools are there. -/
  | check (plugins : List String) (protoc : Option String) (format : ReportFormat)
  deriving DecidableEq, Repr, Inhabited

/-- The directories that a task names. -/
def Task.directories : Task → List Path
  | .compile source _ | .plan source _ =>
    source.protoDir :: source.outputDir :: source.workspaceDir.toList ++ source.protoPaths
  | .check .. => []

/-- A task with the options that hold for every task. -/
structure Request where
  task : Task
  logLevel : Option String
  verbose : Bool
  quiet : Bool
  deriving DecidableEq, Repr, Inhabited

/-- The settings of a compile task. -/
def SourceOptions.compileSettings (o : SourceOptions) (env : Environment) (verbose : Bool)
    (timeout : Option Nat) : Settings :=
  match timeout with
  | some secs => (o.settings env verbose).apply (.timeout (some ⟨secs, 0⟩))
  | none => o.settings env verbose

/-- The settings of a check. -/
def checkSettings (env : Environment) (plugins : List String) (protoc : Option String) : Settings :=
  (Settings.ofEnvironment env).applyAll (.plugins plugins :: (protoc.map Setting.protoc).toList)

end ProtoTree
