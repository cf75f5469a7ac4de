import ProtoTree.Document.Basic
import ProtoTree.Path.Normal

/-! # Plans

The one compiler invocation that covers a tree, before it is run, and what
was noticed while working it out.
-/

namespace ProtoTree

/-- Something worth a note that does not stop a run. -/
inductive Diagnostic where
  /-- An import that names no file under any root. -/
  | unresolvedImport (file : Path) (literal : String)
  /-- A file whose content could not be scanned. -/
  | unreadableFile (file : Path) (error : String)
  /-- A listed file that had to be passed as an absolute path. -/
  | outsideRoot (file root : Path)
  /-- The inclusion rule kept nothing, so every file is listed. -/
  | filterFallback (files : Nat)
  deriving DecidableEq, Repr, Inhabited

namespace Diagnostic

/-- The note in words. -/
def text : Diagnostic → String
  | unresolvedImport file literal => s!"unresolved import \"{literal}\" in {file.text}"
  | unreadableFile file error => s!"could not scan {file.text}: {error}"
  | outsideRoot file root => s!"{file.text} is outside {root.text} and is passed as an absolute path"
  | filterFallback files => s!"import filtering kept no files; all {files} discovered files are listed"

def toDocument : Diagnostic → Document
  | unresolvedImport file literal =>
    .record [("kind", .text "unresolved_import"), ("file", .text file.text), ("literal", .text literal)]
  | unreadableFile file error =>
    .record [("kind", .text "unreadable_file"), ("file", .text file.text), ("error", .text error)]
  | outsideRoot file root =>
    .record [("kind", .text "outside_root"), ("file", .text file.text), ("root", .text root.text)]
  | filterFallback files => .record [("kind", .text "filter_fallback"), ("files", .number files)]

/-- The paths of a note. -/
def paths : Diagnostic → List Path
  | unresolvedImport file _ | unreadableFile file _ => [file]
  | outsideRoot file root => [file, root]
  | filterFallback _ => []

end Diagnostic

/-- A compiler invocation that has not been run. -/
structure CompilePlan where
  program : String
  workingDir : Path
  primaryRoot : Path
  outputDir : Path
  roots : List Path
  /-- How many files discovery found. -/
  discovered : Nat
  compileSet : List Path
  omitted : List Path
  diagnostics : List Diagnostic
  fallbackApplied : Bool
  args : List String
  deriving DecidableEq, Repr, Inhabited

namespace CompilePlan

/-- The program and its arguments with spaces between, for display. -/
def commandLine (p : CompilePlan) : String := " ".intercalate (p.program :: p.args)

/-- The arguments that name files: as many as there are listed files, from the end. -/
def fileArgs (p : CompilePlan) : List String := p.args.drop (p.args.length - p.compileSet.length)

/-- The paths of a plan and of its notes. -/
def paths (p : CompilePlan) : List Path :=
  p.workingDir :: p.primaryRoot :: p.outputDir :: p.roots ++ p.compileSet ++ p.omitted ++
    p.diagnostics.flatMap Diagnostic.paths

/-- The plan as a report shows it. -/
def toDocument (p : CompilePlan) : Document :=
  let paths (ps : List Path) : Document := .texts (ps.map Path.text)
  .record [("program", .text p.program), ("working_dir", .text p.workingDir.text),
    ("primary_root", .text p.primaryRoot.text), ("output_dir", .text p.outputDir.text),
    ("roots", paths p.roots), ("discovered", .number p.discovered),
    ("compile_set", paths p.compileSet), ("omitted", paths p.omitted),
    ("diagnostics", .list (p.diagnostics.map Diagnostic.toDocument)),
    ("fallback_applied", .flag p.fallbackApplied), ("args", .texts p.args)]

end CompilePlan

end ProtoTree
