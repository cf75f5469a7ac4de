import ProtoTree.CommandLine.Grammar
import ProtoTree.CommandLine.Nested

/-! # The program

Copies what a request looks at onto a disk, carries the request out there,
prints what it leaves, and copies new directories and files back. Tools run on
the disk as well, so they have to be scripts of the shell.
-/

namespace ProtoTree.Program

/-- The variables that the program reads. -/
def variableNames : List String :=
  ["PATH", "HOME", "PROTOSWEEP_AUTO_DETECT_IMPORTS", "PROTOSWEEP_MAX_ASCENT", "PROTOSWEEP_TIMEOUT",
    "PROTOSWEEP_PROTOC", "PROTOSWEEP_LOG_LEVEL", "PROTOSWEEP_LOG_JSON"]

def environment : IO Environment :=
  variableNames.filterMapM fun name => return (← IO.getEnv name).map (name, ·)

/-- Copies a file to the disk, with its content only if that is wanted. -/
def copyFile (d : Disk) (p : Path) (withContent : Bool) : IO Disk := do
  try
    let bytes ← if withContent then IO.FS.readBinFile p.text else pure ByteArray.empty
    let content := bytes.toList
    return d.addFile p content ((Shell.interpreter? content).isSome)
  catch _ => return d

/-- Copies what is at a path to the disk: a file, or a directory without what it holds. -/
def copyEntry (d : Disk) (p : Path) (withContent : Bool) : IO Disk := do
  try
    match (← ((← IO.currentDir) / p.text).metadata).type with
    | .dir => return d.addDir p
    | .file => copyFile d p withContent
    | _ => return d
  catch _ => return d

/-- Copies a directory to the disk with the proto files below it. Linked directories are not entered. -/
partial def copyTree (d : Disk) (dir : Path) : IO Disk := do
  try
    let here := (← IO.currentDir) / dir.text
    let mut d := d.addDir dir
    for entry in ← here.readDir do
      let p := dir.join (.ofString entry.fileName)
      match (← (here / entry.fileName).symlinkMetadata).type with
      | .dir => d ← copyTree d p
      | _ => d ← copyEntry d p p.isProtoFile
    return d
  catch _ => return d

/-- The paths that the imports below the proto directory may lead to. -/
def importCandidates (c : Config) (d : Disk) : List Path :=
  match c.validate d with
  | .error _ => []
  | .ok paths =>
    let request := c.sourceSetRequest paths
    match discover d paths.protoDir with
    | .error _ => []
    | .ok files =>
      files.flatMap fun file =>
        (SourceFile.scan d file).imports.flatMap (request.space.candidates file)

/-- The configuration that a task works with. -/
def configOf (env : Environment) (r : Request) : Config :=
  match r.task with
  | .compile source timeout => (source.compileSettings env r.verbose timeout).build
  | .plan source _ => (source.settings env r.verbose).build
  | .check plugins protoc _ => (checkSettings env plugins protoc).build

/-- The part of the file system that a request looks at. -/
def copyDisk (env : Environment) (r : Request) : IO Disk := do
  let c := configOf env r
  let here := Path.ofString (← IO.currentDir).toString
  let start := Disk.empty.addDir here
  let mut d := (start.enter here).toOption.getD start
  for dir in r.task.directories do
    d ← copyEntry d (dir.absolutize here) false
  unless r.task.directories.isEmpty do
    d ← copyTree d (c.protoDir.absolutize here)
  for p in importCandidates c d do
    d ← copyEntry d p false
  let dirs := ((env.lookup "PATH").map splitSearchPath).getD []
  for tool in c.programs do
    for p in toolCandidates dirs (.ofString tool) do
      d ← copyEntry d p true
  return ["/bin/sh", "/usr/bin/sh"].foldl (fun d sh => d.addProgram (.ofString sh) "sh") d

/-- Copies what a run has made back to the file system. -/
def copyBack (before after : Disk) : IO Unit := do
  for n in List.range after.entries.size do
    let isThere := n = Disk.root || after.names[after.homeOf n]? = some n
    unless !isThere || before.entries[n]? = after.entries[n]? do
      match after.entryAt n with
      | .directory => IO.FS.createDirAll (after.pathOf n).text
      | .file content => IO.FS.writeBinFile (after.pathOf n).text ⟨content.toArray⟩
      | _ => pure ()

/-- Prints why arguments are not a request. -/
def reject (fault : ArgumentFault) : IO UInt32 := do
  match fault with
  | .help =>
    IO.println s!"Usage: {programName} [OPTIONS] compile|plan|check|help [OPTIONS]"
    return 0
  | .version =>
    IO.println s!"{programName} {programVersion}"
    return 0
  | fault =>
    IO.eprintln s!"error: {fault.message}"
    return 2

/-- Carries out a request. -/
def perform (r : Request) : IO UInt32 := do
  let env ← environment
  let place := Workplace.onDisk env (← copyDisk env r)
  let run := r.run place
  copyBack place.files run.files
  for line in run.errors do
    IO.eprintln line.text
  IO.print run.output
  return UInt32.ofNat run.exit.code

end ProtoTree.Program

def main (args : List String) : IO UInt32 :=
  match ProtoTree.Request.ofArgs args with
  | .ok request => ProtoTree.Program.perform request
  | .error fault => ProtoTree.Program.reject fault
