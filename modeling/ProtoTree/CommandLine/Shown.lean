import ProtoTree.CommandLine.Request
import ProtoTree.Text.Quoted

/-! # Requests as text

How the log shows a request: every value by name, texts in quotes.
-/

namespace ProtoTree

/-- Values shown by name, and lists, pairs and optional values. -/
inductive Shown where
  | word (text : String)
  | text (value : String)
  | items (values : List Shown)
  | pair (first second : Shown)
  /-- A name with a value in parentheses. -/
  | wrapped (name : String) (value : Shown)
  | fields (name : String) (values : List (String × Shown))

namespace Shown

def flag (b : Bool) : Shown := word (toString b)

def number (n : Nat) : Shown := word (toString n)

def texts (values : List String) : Shown := items (values.map text)

def option {α : Type} (shown : α → Shown) : Option α → Shown
  | some a => wrapped "Some" (shown a)
  | none => word "None"

mutual

/-- The value as one line of text. -/
def render : Shown → String
  | word chars => chars
  | text value => Text.quoted value
  | items values => "[" ++ ", ".intercalate (renderAll values) ++ "]"
  | pair first second => "(" ++ render first ++ ", " ++ render second ++ ")"
  | wrapped name value => name ++ "(" ++ render value ++ ")"
  | fields name values => name ++ " \x7b " ++ ", ".intercalate (renderFields values) ++ " \x7d"

def renderAll : List Shown → List String
  | [] => []
  | value :: rest => render value :: renderAll rest

def renderFields : List (String × Shown) → List String
  | [] => []
  | (name, value) :: rest => (name ++ ": " ++ render value) :: renderFields rest

end

def path (p : Path) : Shown := text p.text

def ofFormat : ReportFormat → Shown
  | .json => word "Json"
  | .yaml => word "Yaml"
  | .human => word "Human"

def ofSource (o : SourceOptions) : Shown :=
  .fields "SourceArgs"
    [("proto_dir", path o.protoDir), ("workspace_dir", option path o.workspaceDir),
      ("output_dir", path o.outputDir), ("proto_paths", items (o.protoPaths.map path)),
      ("plugins", texts o.plugins), ("go_opts", texts o.goOptions),
      ("go_grpc_opts", texts o.goGrpcOptions),
      ("plugin_opts", items (o.pluginOptions.map fun (name, value) => pair (text name) (text value))),
      ("no_auto_detect_imports", flag o.listAll), ("max_ascent", option number o.maxAscent),
      ("protoc", option text o.protoc)]

def ofTask : Task → Shown
  | .compile source timeout =>
    wrapped "Compile" (.fields "CompileArgs"
      [("source", ofSource source), ("timeout", option number timeout)])
  | .plan source format =>
    wrapped "Plan" (.fields "PlanArgs" [("source", ofSource source), ("format", ofFormat format)])
  | .check plugins protoc format =>
    wrapped "Check" (.fields "CheckArgs"
      [("plugins", texts plugins), ("protoc", option text protoc), ("format", ofFormat format)])

def ofRequest (r : Request) : Shown :=
  .fields "CliArgs"
    [("command", ofTask r.task), ("log_level", option text r.logLevel), ("verbose", flag r.verbose),
      ("quiet", flag r.quiet)]

end Shown

/-- The request as one line of text. -/
def Request.text (r : Request) : String := (Shown.ofRequest r).render

end ProtoTree
