import ProtoTree.Path.Normal
import ProtoTree.SystemError
import ProtoTree.Text.Numeral

/-! # Executions

What is handed to the outside to be run, and what may come back.
-/

namespace ProtoTree

/-- A program with its arguments and the directory it starts in. -/
structure Invocation where
  program : Path
  args : List String
  workingDir : Path
  deriving DecidableEq, Repr, Inhabited

/-- What a program that ended leaves. -/
structure ExecOutput where
  /-- Its output, and after that its error output. -/
  output : String
  /-- Its exit code; none when a signal ended it. -/
  exitCode : Option Int
  success : Bool
  deriving DecidableEq, Repr, Inhabited

/-- A failure of input or output: one of the system's, or a custom one. -/
inductive IOFailure where
  | system (e : SystemError)
  | custom (text : String)
  deriving DecidableEq, Repr, Inhabited

def IOFailure.message : IOFailure → String
  | system e => e.message
  | custom text => text

/-- Why a program did not end by itself. -/
inductive ExecError where
  | spawn (program : String) (cause : IOFailure)
  | io (cause : IOFailure)
  | cancelled
  | timedOut (limit : Duration)
  deriving DecidableEq, Repr, Inhabited

namespace ExecError

def message : ExecError → String
  | spawn program cause => s!"failed to start {program}: {cause.message}"
  | io cause => s!"failed to collect compiler output: {cause.message}"
  | cancelled => "compiler execution was cancelled"
  | timedOut limit => s!"compiler execution timed out after {limit.text}"

end ExecError

/-- The outcome of one execution. -/
abbrev ExecReply := Except ExecError ExecOutput

end ProtoTree
