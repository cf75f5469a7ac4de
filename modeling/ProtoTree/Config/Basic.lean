import ProtoTree.Environment
import ProtoTree.Plugin
import ProtoTree.SourceSet
import ProtoTree.Text.Numeral

/-! # Configurations

The settings of one compiler run, their defaults, and how settings from the
environment and from callers are put on top.
-/

namespace ProtoTree

/-- Options by generator name, sorted by name, each name once. -/
abbrev PluginOptions := List (String × List String)

namespace PluginOptions

/-- Sets the options of one generator. -/
def set (name : String) (options : List String) : PluginOptions → PluginOptions
  | [] => [(name, options)]
  | entry :: rest =>
    if entry.1 = name then (name, options) :: rest
    else if name < entry.1 then (name, options) :: entry :: rest
    else entry :: set name options rest

/-- The options of one generator; none when it has no entry. -/
def get (options : PluginOptions) (name : String) : List String := (options.lookup name).getD []

end PluginOptions

/-- The settings of one compiler run. -/
structure Config where
  /-- The directory that is searched for proto files. -/
  protoDir : Path
  /-- The primary root, to which file arguments are relative. -/
  workspaceDir : Path
  outputDir : Path
  /-- Extra roots, in the order they are searched. -/
  protoPaths : List Path
  plugins : List String
  pluginOptions : PluginOptions
  verbose : Bool
  autoDetectImports : Bool
  /-- How many directories above the primary root an import may be found in. -/
  maxAscent : Nat
  timeout : Option Duration
  protoc : String
  deriving DecidableEq, Repr, Inhabited

/-- Settings while they are being put together. -/
structure Settings where
  protoDir : Path
  /-- The proto directory stands in until this is set. -/
  workspaceDir : Option Path
  outputDir : Path
  protoPaths : List Path
  plugins : List String
  pluginOptions : PluginOptions
  verbose : Bool
  autoDetectImports : Bool
  maxAscent : Nat
  timeout : Option Duration
  protoc : String
  deriving DecidableEq, Repr, Inhabited

/-- One change of settings. -/
inductive Setting where
  | protoDir (dir : Path)
  | workspaceDir (dir : Path)
  | outputDir (dir : Path)
  | protoPaths (dirs : List Path)
  | plugins (names : List String)
  | pluginOptions (plugin : String) (options : List String)
  | verbose (on : Bool)
  | autoDetectImports (on : Bool)
  | maxAscent (levels : Nat)
  | timeout (limit : Option Duration)
  | protoc (program : String)
  deriving DecidableEq, Repr, Inhabited

namespace Settings

/-- The option that both go generators get unless told otherwise. -/
def defaultGoOption : String := "paths=source_relative"

/-- The defaults, with what the environment says in place of some. A value that cannot be read counts as not set. -/
def ofEnvironment (env : Environment) : Settings where
  protoDir := .ofString "."
  workspaceDir := none
  outputDir := .ofString "."
  protoPaths := []
  plugins := ["go"]
  pluginOptions := [("go", [defaultGoOption]), ("go-grpc", [defaultGoOption])]
  verbose := false
  autoDetectImports := ((env.lookup "PROTOSWEEP_AUTO_DETECT_IMPORTS").bind Text.readBool?).getD true
  maxAscent :=
    ((env.lookup "PROTOSWEEP_MAX_ASCENT").bind fun v => (Text.readNumber v).toOption).getD
      defaultMaxAscent
  timeout :=
    ((env.lookup "PROTOSWEEP_TIMEOUT").bind fun v => (Text.readNumber v).toOption).map (⟨·, 0⟩)
  protoc := (env.lookup "PROTOSWEEP_PROTOC").getD "protoc"

/-- Makes one change. -/
def apply (s : Settings) : Setting → Settings
  | .protoDir dir => { s with protoDir := dir }
  | .workspaceDir dir => { s with workspaceDir := some dir }
  | .outputDir dir => { s with outputDir := dir }
  | .protoPaths dirs => { s with protoPaths := dirs }
  | .plugins names => { s with plugins := names }
  | .pluginOptions plugin options =>
    { s with pluginOptions := s.pluginOptions.set plugin options }
  | .verbose on => { s with verbose := on }
  | .autoDetectImports on => { s with autoDetectImports := on }
  | .maxAscent levels => { s with maxAscent := levels }
  | .timeout limit => { s with timeout := limit }
  | .protoc program => { s with protoc := program }

/-- Makes changes in order. -/
def applyAll (s : Settings) (changes : List Setting) : Settings := changes.foldl apply s

/-- The finished configuration. -/
def build (s : Settings) : Config where
  protoDir := s.protoDir
  workspaceDir := s.workspaceDir.getD s.protoDir
  outputDir := s.outputDir
  protoPaths := s.protoPaths
  plugins := s.plugins
  pluginOptions := s.pluginOptions
  verbose := s.verbose
  autoDetectImports := s.autoDetectImports
  maxAscent := s.maxAscent
  timeout := s.timeout
  protoc := s.protoc

end Settings

namespace Config

/-- The requested outputs in order, each name once, with its options. -/
def pluginOutputs (c : Config) : List PluginOutput :=
  (ImportGraph.distinctBy id c.plugins).map fun name =>
    ⟨.ofName name, c.pluginOptions.get name⟩

/-- The requested generators in order, each once. -/
def pluginList (c : Config) : List Plugin := c.pluginOutputs.map (·.plugin)

/-- The configuration as a block of text. -/
def text (c : Config) : String :=
  let paths :=
    if c.protoPaths.isEmpty then []
    else ["  Proto paths:    " ++ ", ".intercalate (c.protoPaths.map Path.text)]
  let timeout := match c.timeout with
    | some limit => s!"{limit.secs}s"
    | none => "none"
  "\n".intercalate <|
    ["Protosweep Configuration:",
     "  Proto dir:      " ++ c.protoDir.text,
     "  Workspace dir:  " ++ c.workspaceDir.text,
     "  Output dir:     " ++ c.outputDir.text]
    ++ paths
    ++ ["  Plugins:        " ++ ", ".intercalate c.plugins]
    ++ c.pluginOptions.map (fun (name, options) =>
      "  " ++ name ++ " options: " ++ ",".intercalate options)
    ++ [s!"  Auto-detect:    {c.autoDetectImports}",
        s!"  Max ascent:     {c.maxAscent}",
        "  Timeout:        " ++ timeout,
        "  Protoc:         " ++ c.protoc]

end Config

end ProtoTree
