import ProtoTree.Config.Basic
import ProtoTree.Text.Blank

/-! # Validation of configurations

The checks that a configuration has to pass before anything is looked for, and
the absolute paths that come out of them.
-/

namespace ProtoTree

/-- Why a configuration cannot be used. Paths are the caller's own spelling. -/
inductive ConfigError where
  | missingProtoDir
  | missingWorkspaceDir
  | missingOutputDir
  | protoDirNotFound (dir : Path)
  | workspaceDirNotFound (dir : Path)
  | notWithinWorkspace (protoDir workspaceDir : Path)
  | currentDir (reason : String)
  | validationFailed (reason : String)
  deriving DecidableEq, Repr, Inhabited

namespace ConfigError

def message : ConfigError → String
  | missingProtoDir => "proto directory not specified"
  | missingWorkspaceDir => "workspace directory not specified"
  | missingOutputDir => "output directory not specified"
  | protoDirNotFound dir => s!"proto directory does not exist: {dir.text}"
  | workspaceDirNotFound dir => s!"workspace directory does not exist: {dir.text}"
  | notWithinWorkspace protoDir workspaceDir =>
    s!"proto directory {protoDir.text} must be within workspace directory {workspaceDir.text}"
  | currentDir reason => s!"Failed to determine current directory: {reason}"
  | validationFailed reason => s!"Configuration validation failed: {reason}"

end ConfigError

/-- The paths of a configuration, absolute and in normal form. -/
structure ResolvedPaths where
  /-- Where relative paths start, as the file system gave it. -/
  base : Path
  protoDir : Path
  workspaceDir : Path
  outputDir : Path
  protoPaths : List Path
  deriving DecidableEq, Repr, Inhabited

namespace Config

/-- The most levels that an import may be found above the primary root. -/
def ascentLimit : Nat := 64

/-- The first fault that shows without a file system. -/
def plainFault? (c : Config) : Option ConfigError :=
  if c.protoDir.isEmpty then some .missingProtoDir
  else if c.workspaceDir.isEmpty then some .missingWorkspaceDir
  else if c.outputDir.isEmpty then some .missingOutputDir
  else if c.plugins.any Text.isBlankText then
    some (.validationFailed "Plugin names cannot be empty")
  else if c.maxAscent > ascentLimit then
    some (.validationFailed s!"Max ascent cannot exceed {ascentLimit} levels")
  else if c.timeout = some .zero then
    some (.validationFailed "Timeout must be greater than zero")
  else none

/-- The configuration's paths taken from `base`. -/
def resolvePaths (c : Config) (base : Path) : ResolvedPaths where
  base
  protoDir := c.protoDir.absolutize base
  workspaceDir := c.workspaceDir.absolutize base
  outputDir := c.outputDir.absolutize base
  protoPaths := c.protoPaths.map (·.absolutize base)

/-- The first fault of the directories. -/
def directoryFault? {σ : Type} [FileSystem σ] (c : Config) (fs : σ) (r : ResolvedPaths) :
    Option ConfigError :=
  if !FileSystem.isDir fs r.protoDir then some (.protoDirNotFound c.protoDir)
  else if !FileSystem.isDir fs r.workspaceDir then some (.workspaceDirNotFound c.workspaceDir)
  else if (r.protoDir.relativeTo? r.workspaceDir).isNone then
    some (.notWithinWorkspace c.protoDir c.workspaceDir)
  else none

/-- Checks the configuration and resolves its paths; the first fault is the one reported. -/
def validate {σ : Type} [FileSystem σ] (c : Config) (fs : σ) : Except ConfigError ResolvedPaths :=
  match c.plainFault? with
  | some fault => .error fault
  | none =>
    match FileSystem.currentDir fs with
    | .error e => .error (.currentDir e.message)
    | .ok base =>
      match c.directoryFault? fs (c.resolvePaths base) with
      | some fault => .error fault
      | none => .ok (c.resolvePaths base)

end Config

end ProtoTree
