import ProtoTree.FileSystem.Basic
import ProtoTree.Log.Record
import ProtoTree.Source.Declarations

/-! # Source files

A discovered proto file with what its text declares, or with the reason why
it could not be read.
-/

namespace ProtoTree

/-- A proto file and what its text declares. -/
structure SourceFile where
  path : Path
  declarations : Declarations := {}
  /-- Why the file could not be read; nothing is declared then. -/
  failure : Option FileError := none
  deriving DecidableEq, Repr, Inhabited

namespace SourceFile

/-- Import literals in the order they are written. -/
def imports (f : SourceFile) : List String := f.declarations.imports

def hasService (f : SourceFile) : Bool := f.declarations.hasService

def hasMessage (f : SourceFile) : Bool := f.declarations.hasMessage

/-- Why the file could not be scanned. -/
def scanError (f : SourceFile) : Option String := f.failure.map FileError.message

def wasScanned (f : SourceFile) : Bool := f.failure.isNone

/-- Reads and scans one file. Bytes that are no text do not hide the rest of it, and a file that cannot be read
    declares nothing. -/
def scan {σ : Type} [FileSystem σ] (fs : σ) (path : Path) : SourceFile :=
  match FileSystem.read fs path with
  | .ok bytes => { path, declarations := .ofText (Text.decodeLossy bytes) }
  | .error e => { path, failure := some e }

/-- The record that a scan leaves in the log. -/
def scanRecord (f : SourceFile) : LogRecord :=
  match f.failure with
  | none =>
    { level := .debug, target := "protosweep::resolve::scanner", message := "Scanned proto file"
      fields := [("file", .shown f.path.text), ("imports", .number f.imports.length),
        ("service", .flag f.hasService), ("message", .flag f.hasMessage)] }
  | some e =>
    { level := .warn, target := "protosweep::resolve::scanner"
      message := "Skipping unreadable proto file for import detection"
      fields := [("file", .shown f.path.text), ("error", .shown e.summary)] }

/-- The file as a report shows it. -/
def toDocument (f : SourceFile) : Document :=
  .record <| [("path", .text f.path.text), ("declared_imports", .texts f.imports),
    ("has_service_definition", .flag f.hasService),
    ("has_message_definition", .flag f.hasMessage)]
    ++ (f.scanError.map fun e => ("scan_error", .text e)).toList

end SourceFile

end ProtoTree
