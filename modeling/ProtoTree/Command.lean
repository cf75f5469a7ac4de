import ProtoTree.Log.Record
import ProtoTree.Plan
import ProtoTree.Plugin

/-! # Commands

The compiler's argument list, in a fixed order: the roots, the outputs, then
the files relative to the primary root.
-/

namespace ProtoTree

/-- What the arguments of one compiler run are made from. -/
structure CommandRequest where
  primaryRoot : Path
  outputDir : Path
  outputs : List PluginOutput
  roots : List Path
  /-- The files to list. -/
  files : List Path
  deriving DecidableEq, Repr, Inhabited

namespace CommandRequest

/-- One include flag per root. -/
def rootArgs (r : CommandRequest) : List String := r.roots.flatMap fun root => ["-I", root.text]

/-- One output flag per generator. -/
def outputArgs (r : CommandRequest) : List String :=
  r.outputs.map fun o => o.plugin.outputArg o.options r.outputDir.text

/-- A file as an argument: relative to the primary root, or as it is when it lies outside. -/
def fileArg (r : CommandRequest) (file : Path) : String :=
  ((file.relativeTo? r.primaryRoot).getD file).text

/-- The argument list. -/
def args (r : CommandRequest) : List String := r.rootArgs ++ r.outputArgs ++ r.files.map r.fileArg

/-- The listed files that lie outside the primary root. -/
def outside (r : CommandRequest) : List Path :=
  r.files.filter fun file => (file.relativeTo? r.primaryRoot).isNone

/-- A note for every listed file outside the primary root. -/
def diagnostics (r : CommandRequest) : List Diagnostic :=
  r.outside.map fun file => .outsideRoot file r.primaryRoot

/-- What the log says about them. -/
def records (r : CommandRequest) : List LogRecord :=
  r.outside.map fun file =>
    { level := .warn, target := "protosweep::command::assembler"
      message := "Proto file lies outside the primary root; passing absolute path"
      fields := [("file", .shown file.text), ("root", .shown r.primaryRoot.text)] }

end CommandRequest

end ProtoTree
