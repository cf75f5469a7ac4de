import ProtoTree.Config.Validate
import ProtoTree.Executor
import ProtoTree.Toolchain

/-! # Failures of compile runs -/

namespace ProtoTree

/-- Everything that can stop a run before or while the compiler runs. -/
inductive CompileError where
  | config (e : ConfigError)
  | discovery (dir : Path) (reason : String)
  | noProtoFiles (dir : Path)
  | toolchain (e : ToolchainError)
  | outputDir (dir : Path) (reason : String)
  | exec (e : ExecError)
  | compilerFailed (exitCode : Option Int) (output : String)
  deriving DecidableEq, Repr, Inhabited

namespace CompileError

/-- How a program that failed has ended. -/
def exitDescription : Option Int → String
  | some code => s!"exit code {code}"
  | none => "terminated by signal"

def message : CompileError → String
  | config e => e.message
  | discovery dir reason => s!"failed to walk proto directory {dir.text}: {reason}"
  | noProtoFiles dir => s!"no .proto files found in {dir.text}"
  | toolchain e => e.message
  | outputDir dir reason => s!"failed to create output directory {dir.text}: {reason}"
  | exec e => e.message
  | compilerFailed code output => s!"protoc execution failed ({exitDescription code}): {output}"

/-- What the compiler printed, when it ran and failed. -/
def output : CompileError → Option String
  | compilerFailed _ output => some output
  | _ => none

def isConfigError : CompileError → Bool
  | config _ => true
  | _ => false

/-- How to come by the tool that is missing. -/
def remediation : CompileError → Option String
  | toolchain e => some e.remediation
  | _ => none

end CompileError

end ProtoTree
