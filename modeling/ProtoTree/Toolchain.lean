import ProtoTree.FileSystem.Basic
import ProtoTree.Log.Record
import ProtoTree.Plugin

/-! # Toolchains

Finding the compiler and its generators before anything runs.
-/

namespace ProtoTree

/-- Finds the programs of tools by name. -/
structure ToolLocator where
  find : String → Option Path
  /-- What looking for a tool leaves in the log. -/
  records : String → List LogRecord := fun _ => []

/-- A tool that is needed and not there. -/
inductive ToolchainError where
  | protocNotFound (program : String)
  | pluginNotFound (plugin binary : String)
  deriving DecidableEq, Repr, Inhabited

/-- How to come by a tool. -/
def installHint (tool : String) : String :=
  let goInstall (package : String) : String :=
    s!"Install it with \u0060go install {package}@latest\u0060 and make sure $(go env GOPATH)/bin is in PATH"
  if tool = "protoc-gen-go" then goInstall "google.golang.org/protobuf/cmd/protoc-gen-go"
  else if tool = "protoc-gen-go-grpc" then goInstall "google.golang.org/grpc/cmd/protoc-gen-go-grpc"
  else if "protoc-gen-".toList.isPrefixOf tool.toList then
    s!"Install the {tool} plugin and make sure its directory is in PATH"
  else
    "Install it with your package manager (e.g. \u0060apt install protobuf-compiler\u0060) or download a release from https://github.com/protocolbuffers/protobuf/releases"

namespace ToolchainError

def message : ToolchainError → String
  | protocNotFound program => s!"{program} command not found in PATH"
  | pluginNotFound plugin _ => s!"protoc plugin \"{plugin}\" not found in PATH"

/-- How to come by the missing tool. -/
def remediation : ToolchainError → String
  | protocNotFound program => installHint program
  | pluginNotFound _ binary => installHint binary

end ToolchainError

/-- The programs of a complete toolchain. -/
structure Toolchain where
  protoc : Path
  /-- Each generator that is a program of its own, with that program. -/
  plugins : List (String × Path)
  deriving DecidableEq, Repr, Inhabited

namespace Toolchain

/-- The programs of the generators, in order; the first one that is missing fails. -/
def findPlugins (locator : ToolLocator) : List Plugin → Except ToolchainError (List (String × Path))
  | [] => .ok []
  | plugin :: rest =>
    match plugin.binary with
    | none => findPlugins locator rest
    | some binary =>
      match locator.find binary with
      | none => .error (.pluginNotFound plugin.name binary)
      | some path =>
        match findPlugins locator rest with
        | .ok found => .ok ((plugin.name, path) :: found)
        | .error e => .error e

/-- Finds every program; the first one that is missing fails. -/
def find (locator : ToolLocator) (program : String) (plugins : List Plugin) :
    Except ToolchainError Toolchain :=
  match locator.find program with
  | none => .error (.protocNotFound program)
  | some protoc =>
    match findPlugins locator plugins with
    | .ok found => .ok ⟨protoc, found⟩
    | .error e => .error e

/-- What looking for tools leaves in the log; the search ends at the first one that is missing. -/
def searchRecords (locator : ToolLocator) : List String → List LogRecord
  | [] => []
  | tool :: rest =>
    locator.records tool ++
      if (locator.find tool).isSome then searchRecords locator rest else []

/-- The programs that a toolchain is made of. -/
def programs (program : String) (plugins : List Plugin) : List String :=
  program :: plugins.filterMap (·.binary)

/-- The record that a complete toolchain leaves in the log. -/
def foundRecord (t : Toolchain) : LogRecord :=
  { level := .debug, target := "protosweep::compiler", message := "Toolchain validated"
    fields := [("protoc", .shown t.protoc.text)] }

end Toolchain

/-- Whether one tool is there, for a report. -/
structure ToolStatus where
  name : String
  path : Option Path
  /-- The tool is part of the compiler. -/
  builtin : Bool
  deriving DecidableEq, Repr, Inhabited

namespace ToolStatus

/-- The status of a program of its own. -/
def ofProgram (locator : ToolLocator) (name : String) : ToolStatus :=
  ⟨name, locator.find name, false⟩

def ofPlugin (locator : ToolLocator) (plugin : Plugin) : ToolStatus :=
  match plugin.binary with
  | some binary => ofProgram locator binary
  | none => ⟨plugin.name, none, true⟩

/-- The status of the compiler and of every generator. -/
def check (locator : ToolLocator) (program : String) (plugins : List Plugin) : List ToolStatus :=
  ofProgram locator program :: plugins.map (ofPlugin locator)

/-- Whether the tool is needed and not there. -/
def isMissing (s : ToolStatus) : Bool := !s.builtin && s.path.isNone

def toDocument (s : ToolStatus) : Document :=
  .record [("name", .text s.name), ("path", .ofText? (s.path.map Path.text)),
    ("builtin", .flag s.builtin)]

end ToolStatus

/-- Where a tool may lie: as it is when it has several components, and in each search directory otherwise. -/
def toolCandidates (dirs : List Path) (tool : Path) : List Path :=
  if tool.components.length > 1 then [tool] else dirs.map fun dir => dir.join tool

/-- The first candidate of a tool that is a file. -/
def findInDirs {σ : Type} [FileSystem σ] (fs : σ) (dirs : List Path) (tool : String) : Option Path :=
  (toolCandidates dirs (.ofString tool)).find? (FileSystem.isFile fs)

/-- The record that a tool found in a search directory leaves in the log. -/
def foundInDirs (tool : String) (found : Option Path) : List LogRecord :=
  if (Path.ofString tool).components.length > 1 then []
  else
    found.toList.map fun path =>
      { level := .debug, target := "protosweep::toolchain", message := "Found tool"
        fields := [("tool", .quoted tool), ("path", .shown path.text)] }

/-- The locator over a list of search directories. -/
def ToolLocator.overDirs {σ : Type} [FileSystem σ] (fs : σ) (dirs : List Path) : ToolLocator where
  find := findInDirs fs dirs
  records tool := foundInDirs tool (findInDirs fs dirs tool)

/-- The directories of a search path, which are separated by colons. -/
def splitSearchPath (text : String) : List Path :=
  (text.toList.splitOn ':').map fun dir => .ofString (String.ofList dir)

end ProtoTree
