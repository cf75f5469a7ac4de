import ProtoTree.CommandLine.Request

/-! # Grammar of the command line

Arguments are read from left to right: first the options that hold for every
task, then the name of a task, then its own options. An option waits for its
value, and the value is looked at only when the next option starts or the
arguments end, so a fault further right can be the first one to be noticed.
-/

namespace ProtoTree

/-- Why arguments are not a request. -/
inductive ArgumentFault where
  /-- Help is asked for. -/
  | help
  /-- The version is asked for. -/
  | version
  /-- There are no arguments. -/
  | nothing
  /-- There are options and no task. -/
  | missingTask
  | unknownTask (word : String)
  | unknownArgument (arg : String)
  /-- An option without a value, with an empty path, or with a value outside the allowed ones. -/
  | invalidValue (option value : String)
  /-- A value for an option that takes none. -/
  | unwantedValue (option : String)
  /-- An option given twice, or two options that exclude each other. -/
  | conflict (option : String)
  /-- A value that cannot be read. -/
  | unreadableValue (option reason : String)
  deriving DecidableEq, Repr, Inhabited

namespace ArgumentFault

/-- The fault in words. Help and the version are none. -/
def message : ArgumentFault → String
  | help | version => ""
  | nothing => "a task is required"
  | missingTask => "options without a task"
  | unknownTask word => s!"unknown task '{word}'"
  | unknownArgument arg => s!"unexpected argument '{arg}'"
  | invalidValue option value => s!"invalid value '{value}' for '--{option}'"
  | unwantedValue option => s!"'--{option}' takes no value"
  | conflict option => s!"'--{option}' cannot be used with the options before it"
  | unreadableValue option reason => s!"invalid value for '--{option}': {reason}"

/-- What made a value unreadable. -/
def reason? : ArgumentFault → Option String
  | unreadableValue _ reason => some reason
  | _ => none

end ArgumentFault

/-- The options. -/
inductive Switch where
  | logLevel
  | verbose
  | quiet
  | help
  | version
  | protoDir
  | workspaceDir
  | outputDir
  | protoPaths
  | plugins
  | goOptions
  | goGrpcOptions
  | pluginOption
  | listAll
  | maxAscent
  | protoc
  | timeout
  | format
  deriving DecidableEq, Repr, Inhabited

/-- What an option's value is read as. -/
inductive ValueKind where
  | text
  | path
  | number
  | format
  /-- A generator's name and one option for it, with `=` between. -/
  | pluginOption
  deriving DecidableEq, Repr, Inhabited

/-- How often an option may be given and how many values it then has. -/
inductive Multiplicity where
  | once
  | repeatable
  /-- Repeatable, and each value is a list with commas between. -/
  | commaList
  deriving DecidableEq, Repr, Inhabited

namespace Switch

/-- The name after two hyphens. -/
def long : Switch → String
  | logLevel => "log-level"
  | verbose => "verbose"
  | quiet => "quiet"
  | help => "help"
  | version => "version"
  | protoDir => "proto-dir"
  | workspaceDir => "workspace-dir"
  | outputDir => "output-dir"
  | protoPaths => "proto-path"
  | plugins => "plugins"
  | goOptions => "go-opt"
  | goGrpcOptions => "go-grpc-opt"
  | pluginOption => "plugin-opt"
  | listAll => "no-auto-detect-imports"
  | maxAscent => "max-ascent"
  | protoc => "protoc"
  | timeout => "timeout"
  | format => "format"

/-- The letter after one hyphen. -/
def short : Switch → Option Char
  | verbose => some 'v'
  | quiet => some 'q'
  | help => some 'h'
  | version => some 'V'
  | protoDir => some 'p'
  | workspaceDir => some 'w'
  | outputDir => some 'o'
  | protoPaths => some 'I'
  | format => some 'f'
  | _ => none

/-- What the value is read as; flags have none. -/
def kind : Switch → Option ValueKind
  | verbose | quiet | help | version | listAll => none
  | protoDir | workspaceDir | outputDir | protoPaths => some .path
  | maxAscent | timeout => some .number
  | pluginOption => some .pluginOption
  | format => some .format
  | logLevel | plugins | goOptions | goGrpcOptions | protoc => some .text

def multiplicity : Switch → Multiplicity
  | protoPaths | plugins | goOptions | goGrpcOptions => .commaList
  | pluginOption => .repeatable
  | _ => .once

end Switch

/-- The names of tasks. -/
inductive TaskName where
  | compile
  | plan
  | check
  deriving DecidableEq, Repr, Inhabited

namespace TaskName

def all : List TaskName := [compile, plan, check]

def word : TaskName → String
  | compile => "compile"
  | plan => "plan"
  | check => "check"

def ofWord? (w : String) : Option TaskName := all.find? fun t => t.word == w

end TaskName

/-- A word that takes the place of a task's name. -/
inductive TaskWord where
  | task (name : TaskName)
  | help
  deriving DecidableEq, Repr, Inhabited

def TaskWord.ofWord? (w : String) : Option TaskWord :=
  if w = "help" then some .help else (TaskName.ofWord? w).map .task

/-- Where an argument stands: before the task's name, or after it. -/
abbrev Scope := Option TaskName

namespace Scope

/-- The options that choose a proto tree. -/
def sourceSwitches : List Switch :=
  [.protoDir, .workspaceDir, .outputDir, .protoPaths, .plugins, .goOptions, .goGrpcOptions,
    .pluginOption, .listAll, .maxAscent, .protoc]

/-- The options that may stand here. -/
def switches : Scope → List Switch
  | none => [.logLevel, .verbose, .quiet, .help, .version]
  | some .compile => sourceSwitches ++ [.timeout, .logLevel, .verbose, .quiet, .help]
  | some .plan => sourceSwitches ++ [.format, .logLevel, .verbose, .quiet, .help]
  | some .check => [.plugins, .protoc, .format, .logLevel, .verbose, .quiet, .help]

def findLong (s : Scope) (name : List Char) : Option Switch :=
  s.switches.find? fun o => o.long.toList == name

def findShort (s : Scope) (letter : Char) : Option Switch :=
  s.switches.find? fun o => o.short == some letter

/-- The task word that may stand here. -/
def taskWord? (s : Scope) (w : String) : Option TaskWord :=
  match s with
  | none => TaskWord.ofWord? w
  | some _ => none

end Scope

/-- The value of an option. -/
inductive SwitchValue where
  | on
  | text (value : String)
  | path (value : Path)
  | number (value : Nat)
  | format (value : ReportFormat)
  | pluginOption (plugin option : String)
  deriving DecidableEq, Repr, Inhabited

namespace Switch

/-- The generator's name and the option around the first `=`; neither may be empty. -/
def splitPluginOption (value : String) : Option (String × String) :=
  let name := value.toList.takeWhile (· != '=')
  let option := (value.toList.dropWhile (· != '=')).drop 1
  if name.isEmpty || option.isEmpty then none
  else some (String.ofList name, String.ofList option)

/-- Reads one value of an option. -/
def read (o : Switch) (kind : ValueKind) (value : String) : Except ArgumentFault SwitchValue :=
  match kind with
  | .text => .ok (.text value)
  | .path => if value = "" then .error (.invalidValue o.long value) else .ok (.path (.ofString value))
  | .number =>
    match Text.readNumber value with
    | .ok n => .ok (.number n)
    | .error e => .error (.unreadableValue o.long e.message)
  | .format =>
    match ReportFormat.ofName? value with
    | some f => .ok (.format f)
    | none => .error (.invalidValue o.long value)
  | .pluginOption =>
    match splitPluginOption value with
    | some (name, option) => .ok (.pluginOption name option)
    | none =>
      .error (.unreadableValue o.long
        s!"Invalid plugin option: {value}. Expected NAME=OPTION, e.g. grpc-gateway=logtostderr=true")

/-- The values that one given text stands for. -/
def pieces (o : Switch) (value : String) : List String :=
  match o.multiplicity with
  | .commaList => (value.toList.splitOn ',').map String.ofList
  | _ => [value]

/-- Reads what was given to an option: nothing to a flag, one text to any other. -/
def readAll (o : Switch) (given : Option String) : Except ArgumentFault (List SwitchValue) :=
  match o.kind, given with
  | none, _ => .ok [.on]
  | some _, none => .error (.invalidValue o.long "")
  | some kind, some value => (o.pieces value).mapM (o.read kind)

end Switch

/-- Options with their values, in the order given. -/
abbrev GivenSwitches := List (Switch × List SwitchValue)

namespace GivenSwitches

/-- All values of an option. -/
def values (g : GivenSwitches) (o : Switch) : List SwitchValue :=
  g.flatMap fun entry => if entry.1 = o then entry.2 else []

def has (g : GivenSwitches) (o : Switch) : Bool := g.any fun entry => entry.1 == o

def texts (g : GivenSwitches) (o : Switch) : List String :=
  (g.values o).filterMap fun
    | .text s => some s
    | _ => none

def paths (g : GivenSwitches) (o : Switch) : List Path :=
  (g.values o).filterMap fun
    | .path p => some p
    | _ => none

def number? (g : GivenSwitches) (o : Switch) : Option Nat :=
  (g.values o).findSome? fun
    | .number n => some n
    | _ => none

def format? (g : GivenSwitches) : Option ReportFormat :=
  (g.values .format).findSome? fun
    | .format f => some f
    | _ => none

def pluginOptions (g : GivenSwitches) : List (String × String) :=
  (g.values .pluginOption).filterMap fun
    | .pluginOption name option => some (name, option)
    | _ => none

/-- The values of an option, or what it has when it is not given. -/
def textsOr (g : GivenSwitches) (o : Switch) (unset : List String) : List String :=
  if g.has o then g.texts o else unset

end GivenSwitches

/-- An option that was started and not looked at yet. -/
structure StartedSwitch where
  switch : Switch
  value : Option String
  deriving DecidableEq, Repr, Inhabited

/-- How far the arguments of one scope have been read. -/
structure ReadState where
  given : GivenSwitches := []
  started : Option StartedSwitch := none
  /-- After `--`, everything is a word. -/
  wordsOnly : Bool := false
  deriving Repr, Inhabited

namespace ReadState

/-- Whether the next word is the value of the option that was started. -/
def awaitsValue (s : ReadState) : Bool :=
  match s.started with
  | some o => o.value.isNone
  | none => false

/-- Takes an option with what was given to it. -/
def accept (s : ReadState) (o : Switch) (given : Option String) : Except ArgumentFault ReadState :=
  if o.kind.isSome && given.isNone then .error (.invalidValue o.long "")
  else if o.multiplicity = .once && s.given.has o then .error (.conflict o.long)
  else (o.readAll given).map fun values => { s with given := s.given ++ [(o, values)] }

/-- Takes the option that was started. -/
def settle (s : ReadState) : Except ArgumentFault ReadState :=
  match s.started with
  | none => .ok s
  | some o => { s with started := none }.accept o.switch o.value

/-- Takes an option that is complete. -/
def take (s : ReadState) (o : Switch) (given : Option String) : Except ArgumentFault ReadState := do
  let s ← s.settle
  match o with
  | .help => .error .help
  | .version => .error .version
  | o => s.accept o given

/-- Starts an option whose value comes next. -/
def start (s : ReadState) (o : Switch) : Except ArgumentFault ReadState :=
  s.settle.map fun s => { s with started := some ⟨o, none⟩ }

/-- Reads the letters after one hyphen: flags, then perhaps an option with the rest as its value. -/
def readLetters (scope : Scope) (arg : String) (s : ReadState) :
    List Char → Except ArgumentFault ReadState
  | [] => .ok s
  | letter :: rest =>
    match scope.findShort letter with
    | none => .error (.unknownArgument arg)
    | some o =>
      if o.kind.isNone then
        match s.take o none with
        | .ok s => readLetters scope arg s rest
        | .error fault => .error fault
      else
        match rest with
        | [] => s.start o
        | '=' :: value => s.take o (some (String.ofList value))
        | value => s.take o (some (String.ofList value))

/-- Reads the text after two hyphens: a name, or a name and a value with `=` between. -/
def readLong (scope : Scope) (arg : String) (s : ReadState) (text : List Char) :
    Except ArgumentFault ReadState :=
  let name := text.takeWhile (· != '=')
  let value := (text.dropWhile (· != '=')).tail?
  match scope.findLong name with
  | none => .error (.unknownArgument arg)
  | some o =>
    match o.kind, value with
    | none, none => s.take o none
    | none, some _ => .error (.unwantedValue o.long)
    | some _, none => s.start o
    | some _, some value => s.take o (some (String.ofList value))

/-- What a word is that nothing has a use for. -/
def strayWord (scope : Scope) (s : ReadState) (arg : String) : ArgumentFault :=
  match scope with
  | some _ => .unknownArgument arg
  | none =>
    if s.wordsOnly && (scope.taskWord? arg).isSome then .unknownArgument arg else .unknownTask arg

/-- Reads a word: the value that is waited for, or a stray one. -/
def readWord (scope : Scope) (s : ReadState) (arg : String) : Except ArgumentFault ReadState :=
  if s.wordsOnly then .error (s.strayWord scope arg)
  else
    match s.started with
    | some ⟨o, none⟩ => .ok { s with started := some ⟨o, some arg⟩ }
    | _ => .error (s.strayWord scope arg)

/-- Reads one argument. -/
def readArg (scope : Scope) (s : ReadState) (arg : String) : Except ArgumentFault ReadState :=
  if s.wordsOnly then s.readWord scope arg
  else
    match arg.toList with
    | ['-', '-'] => .ok { s with wordsOnly := true }
    | '-' :: '-' :: text => s.readLong scope arg text
    | '-' :: letter :: rest => s.readLetters scope arg (letter :: rest)
    | _ => s.readWord scope arg

/-- Reads arguments up to a task's word or the end. -/
def readArgs (scope : Scope) (s : ReadState) :
    List String → Except ArgumentFault (ReadState × Option (TaskWord × List String))
  | [] => .ok (s, none)
  | arg :: rest =>
    let word := if s.wordsOnly || s.awaitsValue then none else scope.taskWord? arg
    match word with
    | some word => .ok (s, some (word, rest))
    | none =>
      match s.readArg scope arg with
      | .ok s => readArgs scope s rest
      | .error fault => .error fault

/-- Ends a scope: takes the last option and rules out options that exclude each other. -/
def finish (s : ReadState) : Except ArgumentFault GivenSwitches := do
  let s ← s.settle
  if s.given.has .verbose && s.given.has .quiet then .error (.conflict Switch.quiet.long)
  else .ok s.given

end ReadState

namespace GivenSwitches

/-- The options that choose a proto tree, with what they are when not given. -/
def source (g : GivenSwitches) : SourceOptions where
  protoDir := (g.paths .protoDir).head?.getD (.ofString ".")
  workspaceDir := (g.paths .workspaceDir).head?
  outputDir := (g.paths .outputDir).head?.getD (.ofString ".")
  protoPaths := g.paths .protoPaths
  plugins := g.textsOr .plugins ["go"]
  goOptions := g.textsOr .goOptions [Settings.defaultGoOption]
  goGrpcOptions := g.textsOr .goGrpcOptions [Settings.defaultGoOption]
  pluginOptions := g.pluginOptions
  listAll := g.has .listAll
  maxAscent := g.number? .maxAscent
  protoc := (g.texts .protoc).head?

/-- The task with its options. -/
def task (g : GivenSwitches) : TaskName → Task
  | .compile => .compile g.source (g.number? .timeout)
  | .plan => .plan g.source (g.format?.getD .human)
  | .check =>
    .check (g.textsOr .plugins ["go"]) (g.texts .protoc).head? (g.format?.getD .human)

end GivenSwitches

namespace Request

/-- The request of the options before and after a task's name; a level after it goes before one in front of it. -/
def ofSwitches (before after : GivenSwitches) (name : TaskName) : Request where
  task := after.task name
  logLevel := (after.texts .logLevel ++ before.texts .logLevel).head?
  verbose := before.has .verbose || after.has .verbose
  quiet := before.has .quiet || after.has .quiet

/-- What asking for help about some words leads to: only one word is ever known, a task's or `help`. -/
def helpFault : List String → ArgumentFault
  | [] => .help
  | word :: rest =>
    if (TaskWord.ofWord? word).isNone then .unknownTask word
    else
      match rest with
      | [] => .help
      | word :: _ => .unknownTask word

/-- Reads the arguments of the program. -/
def ofArgs (args : List String) : Except ArgumentFault Request := do
  let (before, next) ← ReadState.readArgs none {} args
  match next with
  | none =>
    let before ← before.settle
    .error (if before.given.isEmpty then .nothing else .missingTask)
  | some (.help, words) => .error (helpFault words)
  | some (.task name, rest) =>
    let (after, _) ← ReadState.readArgs (some name) {} rest
    let after ← after.finish
    let before ← before.finish
    .ok (ofSwitches before after name)

end Request

end ProtoTree
