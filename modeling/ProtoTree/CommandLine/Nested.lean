import ProtoTree.CommandLine.Grammar
import ProtoTree.CommandLine.Run
import ProtoTree.Process

/-! # Runs inside runs

A tool may start the program that it works for once more. Such a run has the
disk as the tool leaves it, and its output goes where the tool's own goes.
-/

namespace ProtoTree

open Text (Octets)

/-- How deep runs may lie inside each other. -/
def nestingLimit : Nat := 4

/-- The program as a tool of it starts it, with as many runs inside as are allowed. -/
def nestedProgram (nesting : Nat) : Shell.Host := fun disk exported args =>
  match nesting, Request.ofArgs (args.map fun arg => Text.decodeText (Octets.toBytes arg)) with
  | 0, _ => ⟨disk, [], [], 127⟩
  | _, .error fault =>
    ⟨disk, [], (Octets.toBytes (Octets.ofString s!"error: {fault.message}\n")), 2⟩
  | nesting + 1, .ok r =>
    let text (octets : Octets) : String := Text.decodeText (Octets.toBytes octets)
    let env : Environment := exported.map fun (name, value) => (text name, text value)
    let run := r.run
      { env, files := disk, executor := processExecutor (some (nestedProgram nesting)) env : Workplace Disk }
    let errors := run.errors.map fun line => line.text ++ "\n"
    ⟨run.files, Text.encode run.output.toList, Text.encode (String.join errors).toList, run.exit.code⟩

/-- A disk where tools are run as processes that may start the program once more. -/
def Workplace.onDisk (env : Environment) (files : Disk) : Workplace Disk where
  env
  files := files.addProgram Shell.State.hostPath programName
  executor := processExecutor (some (nestedProgram nestingLimit)) env

end ProtoTree
