import ProtoTree.Document.Json
import ProtoTree.Document.Yaml
import ProtoTree.Plan
import ProtoTree.Text.Blank
import ProtoTree.Toolchain

/-! # Reports

Plans and tool statuses as JSON, as YAML, or for people to read.
-/

namespace ProtoTree

/-- How a report is written. -/
inductive ReportFormat where
  | json
  | yaml
  | human
  deriving DecidableEq, Repr, Inhabited

namespace ReportFormat

def all : List ReportFormat := [json, yaml, human]

def name : ReportFormat → String
  | json => "json"
  | yaml => "yaml"
  | human => "human"

/-- The format of a name. -/
def ofName? (text : String) : Option ReportFormat := all.find? fun f => f.name == text

end ReportFormat

namespace Report

/-- A text filled up with spaces. -/
def fill (width : Nat) (text : String) : String :=
  text ++ String.ofList (List.replicate (width - text.length) ' ')

/-- A heading and indented lines under it. -/
def section_ (heading : String) (lines : List String) : List String :=
  "" :: heading :: lines.map ("  " ++ ·)

/-- A plan for people to read. -/
def planText (p : CompilePlan) : String :=
  "\n".intercalate <|
    [s!"Proto files: {p.discovered} discovered, {p.compileSet.length} listed",
     s!"Working directory: {p.workingDir.text}",
     s!"Output directory:  {p.outputDir.text}"]
    ++ section_ "Include roots:" (p.roots.map Path.text)
    ++ section_ "Compile:" p.fileArgs
    ++ (if p.omitted.isEmpty then []
        else section_ "Reached through imports:" (p.omitted.map Path.text))
    ++ (if p.diagnostics.isEmpty then []
        else section_ "Notes:" (p.diagnostics.map fun d => "- " ++ d.text))
    ++ section_ "Command:" [p.commandLine]

/-- One tool for people to read; a missing one comes with a hint. -/
def toolLines (s : ToolStatus) : List String :=
  let name := fill 22 s.name
  if s.builtin then [s!"✓ {name} built into protoc"]
  else
    match s.path with
    | some path => [s!"✓ {name} {path.text}"]
    | none => [s!"✗ {name} not found in PATH", s!"  {installHint s.name}"]

/-- A tool report for people to read. -/
def toolsText (tools : List ToolStatus) : String :=
  Text.trimEnd ("\n".intercalate (tools.flatMap toolLines))

/-- A document in one of the formats for programs, or the text for people. Programs are given UTF-8 paths alone. -/
def write (format : ReportFormat) (what : String) (paths : List Path) (document : Document) (text : String) :
    Except String String :=
  let serialized (title body : String) : Except String String :=
    if paths.all Path.isUtf8 then .ok body
    else .error s!"Failed to serialize {what} to {title}: path contains invalid UTF-8 characters"
  match format with
  | .json => serialized "JSON" document.toJson
  | .yaml => serialized "YAML" document.toYaml
  | .human => .ok text

def plan (format : ReportFormat) (p : CompilePlan) : Except String String :=
  write format "plan" p.paths p.toDocument (planText p)

def tools (format : ReportFormat) (statuses : List ToolStatus) : Except String String :=
  write format "tool report" (statuses.filterMap (·.path)) (.list (statuses.map ToolStatus.toDocument))
    (toolsText statuses)

end Report

end ProtoTree
