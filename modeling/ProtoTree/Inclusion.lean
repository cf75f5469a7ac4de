import ProtoTree.ImportGraph

/-! # Inclusion

Which files are listed on the compiler's command line. A file that another
listed file imports is left for the compiler to pull in, unless it declares a
service.
-/

namespace ProtoTree

/-- The files to list and the files to leave out. -/
structure Inclusion where
  /-- Files to list, in input order. -/
  compile : List Path := []
  /-- Files that are reached through imports. -/
  omitted : List Path := []
  /-- The rule kept nothing, so every file is listed. -/
  fallbackApplied : Bool := false
  deriving DecidableEq, Repr, Inhabited

namespace Inclusion

/-- Whether a file with the given in-degree is listed. -/
def keeps (file : SourceFile) (inDegree : Nat) : Bool :=
  inDegree == 0 || file.hasService || (file.hasMessage && inDegree == 0)

/-- Lists every file. -/
def everything (files : List SourceFile) : Inclusion := { compile := files.map (·.path) }

/-- Lists the files that the rule keeps, or every file when it keeps none. -/
def ofGraph (files : List SourceFile) (g : ImportGraph) : Inclusion :=
  let degrees := g.degrees
  let kept (f : SourceFile) : Bool := keeps f ((degrees.lookup f.path.components).getD 0)
  let compile := (files.filter kept).map (·.path)
  if compile.isEmpty && !files.isEmpty then { everything files with fallbackApplied := true }
  else { compile, omitted := (files.filter fun f => !kept f).map (·.path) }

/-- The records that a decision leaves in the log. -/
def records (d : Inclusion) : List LogRecord :=
  if d.fallbackApplied then
    [{ level := .warn, target := "protosweep::resolve::filter"
       message := "Inclusion filter kept no files; listing every discovered file instead"
       fields := [("files", .number d.compile.length)] }]
  else []

end Inclusion

end ProtoTree
