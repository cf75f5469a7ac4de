/-! # Plugins

Output generators. The ones in the table have a fixed flag, and some of them
are part of the compiler; any other name follows the compiler's own rule: flag
`--<name>_out`, served by a program `protoc-gen-<name>`.
-/

namespace ProtoTree

/-- An output generator. -/
structure Plugin where
  name : String
  outFlag : String
  /-- The program that the compiler starts for it; generators inside the compiler have none. -/
  binary : Option String
  deriving DecidableEq, Repr, Inhabited

namespace Plugin

/-- A generator that is not in the table: the compiler finds it as a program of its own. -/
def external (name : String) : Plugin := ⟨name, name ++ "_out", some ("protoc-gen-" ++ name)⟩

/-- The generators known by name: two with programs of their own, the others inside the compiler. -/
def known : List Plugin :=
  [⟨"go", "go_out", some "protoc-gen-go"⟩,
    ⟨"go-grpc", "go-grpc_out", some "protoc-gen-go-grpc"⟩,
    ⟨"cpp", "cpp_out", none⟩,
    ⟨"csharp", "csharp_out", none⟩,
    ⟨"java", "java_out", none⟩,
    ⟨"kotlin", "kotlin_out", none⟩,
    ⟨"objc", "objc_out", none⟩,
    ⟨"php", "php_out", none⟩,
    ⟨"pyi", "pyi_out", none⟩,
    ⟨"python", "python_out", none⟩,
    ⟨"ruby", "ruby_out", none⟩]

/-- The generator of a name. -/
def ofName (name : String) : Plugin :=
  (known.find? fun p => p.name == name).getD (external name)

def isBuiltin (p : Plugin) : Bool := p.binary.isNone

/-- The options that are not empty, joined by commas. -/
def joinOptions (options : List String) : String :=
  ",".intercalate (options.filter fun o => !o.isEmpty)

/-- The value of an output flag: the options, a colon, the directory; without options only the directory. -/
def outputValue (options : List String) (outputDir : String) : String :=
  if options.all String.isEmpty then outputDir else joinOptions options ++ ":" ++ outputDir

/-- The argument that asks for the generator's output. -/
def outputArg (p : Plugin) (options : List String) (outputDir : String) : String :=
  "--" ++ p.outFlag ++ "=" ++ outputValue options outputDir

end Plugin

/-- A requested output and its options. -/
structure PluginOutput where
  plugin : Plugin
  options : List String
  deriving DecidableEq, Repr, Inhabited

end ProtoTree
