import ProtoTree.FileSystem.Disk
import ProtoTree.Shell.Arithmetic
import ProtoTree.Shell.Script

/-! # State of a shell

What a running script has and what it has done so far. Time is not measured
but counted: only sleeping makes it pass. What runs beside the script is run
at once, and its output carries the time it is printed at.
-/

namespace ProtoTree.Shell

open Text (Bytes Octets)

/-- Where a descriptor leads. -/
inductive Channel where
  | output
  | errors
  /-- Takes everything and holds nothing. -/
  | nowhere
  /-- An open file. -/
  | file (number : Nat)
  | pipe (number : Nat)
  /-- Something to read. -/
  | source (number : Nat)
  /-- Holds as many zeros as are asked for. -/
  | zeros
  /-- Has no room left. -/
  | full
  deriving DecidableEq, Repr, Inhabited

/-- A file that was opened, and the place in it that comes next. -/
structure OpenFile where
  entry : Nat
  position : Nat := 0
  /-- What is written goes to the end. -/
  appends : Bool := false
  readable : Bool := true
  writable : Bool := true
  deriving Repr, Inhabited

/-- How a process has ended. -/
inductive Outcome where
  | exited (status : Nat)
  | killed (signal : Nat)
  deriving DecidableEq, Repr, Inhabited

namespace Outcome

/-- The status that a shell gives to an end. -/
def status : Outcome → Nat
  | exited status => status
  | killed signal => 128 + signal

end Outcome

/-- How a script goes on after a command. -/
inductive Flow where
  | next
  /-- It ends, with a status of its own or the current one. -/
  | leave (status : Option Nat)
  /-- It cannot go on. -/
  | faulted
  /-- A program has taken its place, and has ended. -/
  | replaced
  /-- A function ends, or a script that was read in; with a status of its own or not. -/
  | returns (withStatus : Bool)
  | breakLoops (count : Nat)
  | continueLoops (count : Nat)
  /-- A signal has ended it. -/
  | killed (signal : Nat)
  /-- It does not end. -/
  | endless
  deriving DecidableEq, Repr, Inhabited

/-- Bytes that were printed, where to and when. -/
structure Printed where
  time : Nat
  channel : Channel
  bytes : Bytes
  deriving Repr, Inhabited

/-- A process that runs beside the script. -/
structure Job where
  process : Nat
  /-- When it ends, if it does. -/
  finish : Option Nat
  outcome : Outcome
  /-- What it prints, the latest first. -/
  printed : List Printed
  /-- The number that it is known by. -/
  number : Nat := 1
  /-- Its end was waited for. -/
  waited : Bool := false
  /-- The signals that do nothing to it. -/
  ignored : List Nat := []
  /-- The signals that it has an action for. -/
  trapped : List Nat := []
  deriving Repr, Inhabited

/-- A process that keeps channels open. -/
structure Holder where
  process : Nat
  finish : Option Nat
  channels : List Channel
  deriving Repr, Inhabited

/-- A signal that was sent and has not arrived yet. -/
structure Sent where
  process : Nat
  signal : Nat
  time : Nat
  deriving DecidableEq, Repr, Inhabited

/-- What the program that a script works for leaves when the script starts it once more. -/
structure HostRun where
  disk : Disk
  output : Bytes
  errors : Bytes
  status : Nat

/-- The program that a script works for, as it runs on a disk with an environment and arguments. -/
abbrev Host := Disk → List (Octets × Octets) → List Octets → HostRun

/-- What all processes share. -/
structure World where
  disk : Disk
  host : Option Host := none
  /-- What was printed, the latest first. -/
  printed : List Printed := []
  /-- What is left to read of each source. -/
  sources : List (Nat × Bytes) := []
  openFiles : Array OpenFile := #[]
  /-- How many numbers were given to processes, pipes and sources. -/
  issued : Nat := 0
  /-- The time passed, in nanoseconds. -/
  time : Nat := 0
  holders : List Holder := []
  sent : List Sent := []
  /-- The signals to jobs that were known ahead, and those that should have been. -/
  foretold : List Sent := []
  surprises : List Sent := []
  /-- The processes that have ended and were waited for. -/
  gone : List Nat := []
  deriving Inhabited

/-- A variable of a script. -/
structure Variable where
  value : Option Octets := none
  exported : Bool := false
  fixed : Bool := false
  /-- It is still known when its value is taken away. -/
  lasting : Bool := false
  deriving DecidableEq, Repr, Inhabited

/-- What a function brings back at its end. -/
inductive Kept where
  | variable (name : Octets) (before : Option Variable)
  | options (letters : List Char)
  deriving Inhabited

/-- A program that was found before. -/
structure Tracked where
  name : Octets
  /-- Where in the search path it was found. -/
  place : Nat
  /-- Whether it has to be looked for again. -/
  stale : Bool := false
  deriving DecidableEq, Repr, Inhabited

/-- Where `getopts` is in the arguments: number 0 starts over. -/
structure Choosing where
  index : Nat := 1
  /-- The place inside an argument. -/
  offset : Option Nat := none
  deriving Inhabited

/-- A running script. -/
structure State where
  world : World
  /-- What messages start with, and what they have behind the line. -/
  name : Octets
  within : Octets := []
  args : List Octets := []
  bindings : List (Octets × Variable) := []
  functions : List (Octets × Command) := []
  aliases : List (Octets × Octets) := []
  /-- The programs that were found so far, the earliest first. -/
  tracked : List Tracked := []
  /-- The current directory as it was spelled. -/
  dir : Octets := ['/']
  /-- The bodies of here-documents. -/
  documents : List (Nat × Word) := []
  documentCount : Nat := 0
  /-- The line of the running command. -/
  line : Nat := 1
  choosing : Choosing := {}
  /-- What each running command brings back at its end, the innermost first. -/
  frames : List (List Kept) := []
  /-- The actions for signals; 0 is the end of the script. -/
  traps : List (Nat × Octets) := []
  /-- The signals that were ignored from the start. -/
  ignored : List Nat := []
  /-- The letters of the options that are on. -/
  options : List Char := []
  /-- The permissions that new files do not get. -/
  mask : Nat := 0o022
  /-- How much there may be of some things. -/
  limited : List (Char × Octets) := []
  /-- The number of the process, and the one that the script knows itself by. -/
  process : Nat := 0
  shell : Nat := 0
  /-- The processes that wait for this one, the nearest first. -/
  ancestors : List Nat := []
  jobs : List Job := []
  /-- The number of the latest job. -/
  latest : Option Nat := none
  status : Nat := 0
  /-- The status of the latest script inside a word. -/
  substituted : Nat := 0
  flow : Flow := .next
  loops : Nat := 0
  /-- How many functions run inside each other. -/
  depth : Nat := 0
  descriptors : List (Nat × Channel) := [(0, .source 0), (1, .output), (2, .errors)]
  deriving Inhabited

namespace State

/-- The numbers of processes start here. -/
def firstProcess : Nat := 4242

/-- Where the program that a script works for is found. -/
def hostPath : Path := .ofString s!"/proc/{firstProcess - 1}/exe"

def withStatus (s : State) (status : Nat) : State := { s with status }

/-- Gives messages something to have behind the line. -/
def inside (s : State) (within : String) : State := { s with within := within.toList }

def withFlow (s : State) (flow : Flow) : State := { s with flow }

def withWorld (s : State) (world : World) : State := { s with world }

def withDisk (s : State) (disk : Disk) : State := { s with world := { s.world with disk } }

def disk (s : State) : Disk := s.world.disk

/-- Whether the script goes on with its next command. -/
def goesOn (s : State) : Bool := s.flow == .next

/-- How many functions may run inside each other. -/
def depthLimit : Nat := 1000

/-- Gives out a number. -/
def issue (s : State) : Nat × State :=
  (s.world.issued + 1, { s with world := { s.world with issued := s.world.issued + 1 } })

/-! ## Files -/

/-- The path that a text names. -/
def path (text : Octets) : Path := ⟨Octets.toBytes text⟩

/-- The number of the entry that a text names. -/
def entryOf? (s : State) (file : Octets) (followLast : Bool) : Except SystemError Nat :=
  s.disk.numberOf? (path file) followLast

/-- The entry that a text names, through all links. -/
def statOf? (s : State) (file : Octets) : Except SystemError DiskEntry := s.disk.stat (path file)

def isDir (s : State) (file : Octets) : Bool := s.disk.isDir (path file)

/-- The path of an entry, as text. -/
def placeOf (s : State) (n : Nat) : Octets := Octets.ofBytes (s.disk.pathOf n).bytes

/-- The names in a directory, in order. -/
def namesIn (s : State) (n : Nat) : List Octets :=
  ((s.disk.listNames n).map Octets.ofBytes).mergeSort fun a b => !decide (b < a)

/-- The moment that the clock shows at the start, in nanoseconds. -/
def startOfTime : Int := 1735689600000000000

/-- What the clock shows. -/
def clock (s : State) : Int := startOfTime + s.world.time

/-- Replaces the content of a file. -/
def setContent (s : State) (n : Nat) (content : Bytes) : State :=
  let d := s.disk.setEntry n (.file content)
  s.withDisk { d with stamps := d.stamps.insert n s.clock }

/-- Makes an entry under a name, with permissions as far as they are allowed. -/
def makeEntry (s : State) (name : DiskName) (entry : DiskEntry) (mode : Nat) : State :=
  let n := s.disk.entries.size
  let d := s.disk.makeWith name entry (mode &&& (0o7777 ^^^ s.mask))
  s.withDisk { d with stamps := d.stamps.insert n s.clock }

/-- Opens a file to be written from its start: its number, the file made or emptied. -/
def makeFile (s : State) (file : Octets) : Except SystemError (Nat × State) :=
  match s.disk.spot? (path file) true with
  | .error e => .error e
  | .ok (.vacant name) =>
    if file.getLast? = some '/' then .error .isDirectory
    else .ok (s.disk.entries.size, s.makeEntry name (.file []) 0o666)
  | .ok (.entry n) =>
    match s.disk.entryAt n with
    | .directory => .error .isDirectory
    | .file _ => .ok (n, s.setContent n [])
    | _ => .ok (n, s)

/-- Gives a file some content, and makes it if it is not there. -/
def writeFile (s : State) (file : Octets) (content : Bytes) : Except SystemError State :=
  match s.makeFile file with
  | .error e => .error e
  | .ok (n, s) =>
    match s.disk.entryAt n with
    | .file _ => .ok (s.setContent n content)
    | _ => .ok s

/-- When an entry was changed. -/
def stampOf (s : State) (n : Nat) : Int := (s.disk.stamps[n]?).getD startOfTime

/-! ## Printing and reading -/

/-- Bytes put in the place of others, from a position on. -/
def overwritten (content : Bytes) (position : Nat) (bytes : Bytes) : Bytes :=
  content.take position ++ List.replicate (position - content.length) 0 ++ bytes ++
    content.drop (position + bytes.length)

/-- Prints bytes to a channel; none when it takes none. -/
def emit (s : State) (channel : Channel) (bytes : Bytes) : Option State :=
  match channel with
  | .nowhere | .zeros => some s
  | .source _ | .full => none
  | .file k =>
    match s.world.openFiles[k]? with
    | none => none
    | some f =>
      match s.disk.entryAt f.entry with
      | .file content =>
        if !f.writable then none
        else
          let position := if f.appends then content.length else f.position
          let s := s.setContent f.entry (overwritten content position bytes)
          let f := { f with position := position + bytes.length }
          some (s.withWorld { s.world with openFiles := s.world.openFiles.setIfInBounds k f })
      | _ => none
  | channel =>
    some { s with world := { s.world with printed := ⟨s.world.time, channel, bytes⟩ :: s.world.printed } }

/-- Writes bytes to a descriptor; a closed one takes none. -/
def write (s : State) (descriptor : Nat) (bytes : Bytes) : Option State :=
  (s.descriptors.lookup descriptor).bind fun channel => s.emit channel bytes

/-- Writes text to the error output. -/
def mention (s : State) (text : Octets) : State := (s.write 2 (Octets.toBytes text)).getD s

/-- Writes a message of the script to its error output. -/
def complain (s : State) (text : String) : State :=
  s.mention (s.name ++ s!": {s.line}: ".toList ++ s.within ++ text.toList ++ ['\n'])

/-- Fails with a message. -/
def fail (s : State) (status : Nat) (text : String) : State := (s.complain text).withStatus status

/-- Fails with a message and cannot go on. -/
def abort (s : State) (text : String) : State := (s.fail 2 text).withFlow .faulted

/-- Prints the output of the command that messages have behind the line. -/
def print (s : State) (text : Octets) : State :=
  if text.isEmpty then s.withStatus 0
  else
    match s.write 1 (Octets.toBytes text) with
    | some s => s.withStatus 0
    | none => s.fail 1 (String.ofList s.within ++ "I/O error")

/-- Everything that went to a channel, in the order of time. -/
def printedTo (s : State) (channel : Channel) : Bytes :=
  ((s.world.printed.filter fun p => p.channel == channel).reverse.mergeSort
    fun a b => a.time ≤ b.time).flatMap (·.bytes)

/-- What is left to read from a channel; some cannot be read. -/
def unreadFrom (s : State) (channel : Channel) : Option Bytes :=
  match channel with
  | .source n => some ((s.world.sources.lookup n).getD [])
  | .file k =>
    (s.world.openFiles[k]?).bind fun f =>
      match s.disk.entryAt f.entry with
      | .file content => if f.readable then some (content.drop f.position) else none
      | _ => none
  | .nowhere | .zeros | .full => some []
  | _ => none

/-- What is left to read from a descriptor; a closed one cannot be read. -/
def unread (s : State) (descriptor : Nat) : Option Bytes :=
  (s.descriptors.lookup descriptor).bind s.unreadFrom

/-- Leaves the rest of what was to be read from a descriptor. -/
def leaveUnread (s : State) (descriptor : Nat) (rest : Bytes) : State :=
  match s.descriptors.lookup descriptor with
  | some (.source n) =>
    let others := s.world.sources.filter fun source => source.1 ≠ n
    s.withWorld { s.world with sources := (n, rest) :: others }
  | some (.file k) =>
    match s.world.openFiles[k]? with
    | some f =>
      match s.disk.entryAt f.entry with
      | .file content =>
        let f := { f with position := content.length - rest.length }
        s.withWorld { s.world with openFiles := s.world.openFiles.setIfInBounds k f }
      | _ => s
    | none => s
  | _ => s

/-- All that is left to read from the input. -/
def takeInput (s : State) : Bytes × State := ((s.unread 0).getD [], s.leaveUnread 0 [])

/-- A new source of bytes. -/
def addSource (s : State) (bytes : Bytes) : Channel × State :=
  let (n, s) := s.issue
  (.source n, s.withWorld { s.world with sources := (n, bytes) :: s.world.sources })

/-- Opens an entry. -/
def openEntry (s : State) (f : OpenFile) : Channel × State :=
  (.file s.world.openFiles.size, s.withWorld { s.world with openFiles := s.world.openFiles.push f })

/-- Leads a descriptor to a channel, or closes it. -/
def lead (s : State) (descriptor : Nat) (channel : Option Channel) : State :=
  let others := s.descriptors.filter fun d => d.1 ≠ descriptor
  match channel with
  | some channel => { s with descriptors := (descriptor, channel) :: others }
  | none => { s with descriptors := others }

/-- Takes what went to a pipe out of what was printed. -/
def takePipe (s : State) (number : Nat) : Bytes × State :=
  (s.printedTo (.pipe number), s.withWorld
    { s.world with printed := s.world.printed.filter fun p => p.channel != .pipe number })

/-- The channels that the process keeps open. -/
def channels (s : State) : List Channel := s.descriptors.map (·.2)

/-! ## Variables -/

def binding? (s : State) (name : Octets) : Option Variable := s.bindings.lookup name

/-- The value of a variable. -/
def valueOf? (s : State) (name : Octets) : Option Octets := (s.binding? name).bind (·.value)

def home? (s : State) : Option Octets := s.valueOf? "HOME".toList

/-- Puts a variable in the place that it has, or behind all others. -/
def putVariable (s : State) (name : Octets) (v : Option Variable) : State :=
  match v with
  | some v =>
    if (s.binding? name).isSome then
      { s with bindings := s.bindings.map fun b => if b.1 = name then (name, v) else b }
    else { s with bindings := s.bindings ++ [(name, v)] }
  | none => { s with bindings := s.bindings.filter fun b => b.1 ≠ name }

/-- Gives a variable a value. -/
def setVariable (s : State) (name value : Octets) : State :=
  let old := (s.binding? name).getD {}
  s.putVariable name (some { old with value := some value, exported := old.exported || s.options.contains 'a' })

/-- Changes a variable without changing its value. -/
def remark (change : Variable → Variable) (s : State) (name : Octets) : State :=
  s.putVariable name (some (change ((s.binding? name).getD {})))

/-- Whether a variable keeps its value for ever. -/
def isFixed (s : State) (name : Octets) : Bool := (s.binding? name).any (·.fixed)

/-- What a new value of a variable changes besides: programs are to be looked for again, and `getopts` starts over
    at the argument that its variable names. -/
def noticed (s : State) (name : Octets) (value : Option Octets) : State :=
  if name = "PATH".toList then { s with tracked := [] }
  else if name = "OPTIND".toList then
    let value := value.getD []
    match Arithmetic.readCount? value with
    | some n => { s with choosing := { index := max n 1 } }
    | none => s.abort s!"Illegal number: {String.ofList value}"
  else s

/-- Gives a variable a value unless it keeps its own, whatever its name. -/
def assignAny (s : State) (name value : Octets) : State :=
  if s.isFixed name then s.abort s!"{String.ofList name}: is read only"
  else
    let s := s.noticed name (some value)
    if s.goesOn then s.setVariable name value else s

/-- Gives a variable a value unless it keeps its own. -/
def assign (s : State) (name value : Octets) : State :=
  if !Name.isName name then s.abort s!"{String.ofList name}: bad variable name"
  else s.assignAny name value

/-- Takes a variable away unless it keeps its value. -/
def unsetVariable (s : State) (name : Octets) : State :=
  if !Name.isName name then s.abort s!"{String.ofList name}: bad variable name"
  else if s.isFixed name then s.abort s!"{String.ofList name}: is read only"
  else
    match s.binding? name with
    | none => s.putVariable name none
    | some v =>
      let s := s.noticed name none
      if v.lasting then s.putVariable name (some { v with value := none }) else s.putVariable name none

/-- Keeps what a variable was for the end of the running command, and gives it a value of its own. -/
def keepLocal (s : State) (name : Octets) (value : Option Octets) (exported : Bool) : State :=
  let before := s.binding? name
  let keep (s : State) : State :=
    match s.frames with
    | [] => s
    | frame :: rest => { s with frames := (.variable name before :: frame) :: rest }
  let mark (v : Variable) : Variable := { v with lasting := true, exported := v.exported || exported }
  match value with
  | some value =>
    let s := s.assignAny name value
    if s.goesOn then keep (remark mark s name) else s
  | none =>
    if before.isSome then keep (remark mark s name)
    else if Name.isName name then keep (remark mark s name)
    else s.abort s!"{String.ofList name}: bad variable name"

/-- Brings one thing back. -/
def bringBack (s : State) : Kept → State
  | .options letters => { s with options := letters }
  | .variable name (some v) => (s.noticed name v.value).putVariable name (some v)
  | .variable name none =>
    if Name.isName name then (s.noticed name none).putVariable name none
    else s.abort s!"{String.ofList name}: bad variable name"

/-- Starts a command that may have variables of its own. -/
def pushFrame (s : State) : State := { s with frames := [] :: s.frames }

/-- Brings back what the commands have kept that are inside of so many others. -/
def popFrames (s : State) (depth : Nat) : State :=
  let ending := s.frames.take (s.frames.length - depth)
  let s := { s with frames := s.frames.drop (s.frames.length - depth) }
  ending.flatten.foldl bringBack s

/-- The place of a name among others that are looked up by their characters: one of so many rows. -/
def rowOf (rows : Nat) (name : Octets) : Nat :=
  let first := (name.head?.map Char.toNat).getD 0
  (name.foldl (fun n c => n + c.toNat) (16 * first)) % 32768 % rows

/-- Things that have names, row by row. -/
def inRows {α : Type} (rows : Nat) (nameOf : α → Octets) (things : List α) : List α :=
  things.mergeSort fun a b => rowOf rows (nameOf a) ≤ rowOf rows (nameOf b)

/-- How many rows there are of variables, of aliases and of programs. -/
def variableRows : Nat := 39

def aliasRows : Nat := 39

def programRows : Nat := 31

/-- The variables that a program gets to see. -/
def environment (s : State) : List (Octets × Octets) :=
  let seen := s.bindings.filterMap fun (name, v) => if v.exported then v.value.map (name, ·) else none
  inRows variableRows (·.1) seen

/-- Runs the program that the script works for. -/
def runHost (s : State) (args : List Octets) : State :=
  match s.world.host with
  | none => s.withStatus 127
  | some host =>
    let done := host s.disk s.environment args
    let s := s.withDisk { done.disk with cwd := s.disk.cwd }
    let s := (s.write 1 done.output).getD s
    ((s.write 2 done.errors).getD s).withStatus done.status

/-- The letters that options are shown by, in order. -/
def optionOrder : List Char := "pubaCEVvxsnmiIfe".toList

/-- Turns an option on or off. -/
def putOption (s : State) (letter : Char) (on : Bool) : State :=
  let others := s.options.filter (· ≠ letter)
  { s with options := if on then letter :: others else others }

/-- The characters that separate fields. -/
def separators (s : State) : Octets := (s.valueOf? "IFS".toList).getD [' ', '\t', '\n']

/-- The number that a variable has in arithmetic. -/
def number (s : State) (name : Octets) : Except Arithmetic.Fault Int :=
  match s.valueOf? name with
  | none => .ok 0
  | some text =>
    match Arithmetic.readValue? text with
    | some n => .ok n
    | none => .error (.number text)

/-! ## Programs -/

/-- The directories that programs are searched in. -/
def searchPath (s : State) : List Octets :=
  match s.valueOf? "PATH".toList with
  | some text => text.splitOn ':'
  | none => []

/-- The files that a program's name may stand for. -/
def candidates (s : State) (name : Octets) : List Octets :=
  if name.contains '/' then [name]
  else s.searchPath.map fun dir => if dir.isEmpty then name else dir ++ '/' :: name

/-- Whether a text names a file that can be run. -/
def isProgram (s : State) (file : Octets) : Bool :=
  match s.entryOf? file true with
  | .ok n => s.disk.isExecutable n
  | .error _ => false

/-- The first file in the search directories of a program's name. -/
def findProgram? (s : State) (name : Octets) : Option Octets := (s.candidates name).find? s.isProgram

/-- Where in the search path a program's name is found first. -/
def placeOfProgram? (s : State) (name : Octets) : Option Nat :=
  (s.candidates name).findIdx? s.isProgram

/-- Keeps where a program was found, in the place that its name has or behind all others. -/
def track (s : State) (name : Octets) (place : Nat) : State :=
  if s.tracked.any (·.name = name) then
    { s with tracked := s.tracked.map fun t => if t.name = name then ⟨name, place, false⟩ else t }
  else { s with tracked := s.tracked ++ [⟨name, place, false⟩] }

def untrack (s : State) (name : Octets) : State :=
  { s with tracked := s.tracked.filter fun t => t.name ≠ name }

/-- Looks for a program by its name, where it was found before or in the search path; gives its place. -/
def search (s : State) (name : Octets) : Option Nat × State :=
  match s.tracked.find? fun t => t.name = name && !t.stale with
  | some t => (some t.place, s)
  | none =>
    match s.placeOfProgram? name with
    | some place => (some place, s.track name place)
    | none => (none, s.untrack name)

/-! ## Processes -/

/-- A copy of the process, which starts without jobs and with no traps but those that ignore a signal. -/
def fork (s : State) : State :=
  let (n, s) := s.issue
  { s with
    process := firstProcess + n, ancestors := s.process :: s.ancestors, jobs := []
    traps := s.traps.filter fun t => t.2.isEmpty }

/-- The signals that do nothing to the process. -/
def allIgnored (s : State) : List Nat :=
  s.ignored ++ (s.traps.filter fun t => t.2.isEmpty).map (·.1)

/-- Whether some signal or the end of the script starts an action. -/
def hasTraps (s : State) : Bool := s.traps.any fun t => !t.2.isEmpty

/-- Whether a signal does nothing to the process. -/
def ignores (s : State) (signal : Nat) : Bool :=
  s.ignored.contains signal || s.traps.lookup signal = some []

/-- Puts what jobs have printed to the rest. -/
def release (s : State) : State :=
  { s with
    jobs := s.jobs.map fun j => { j with printed := [] }
    world := { s.world with printed := (s.jobs.flatMap (·.printed)) ++ s.world.printed } }

/-- The time from when on both are over. -/
def later (time : Nat) (finish : Option Nat) : Option Nat := finish.map (max time)

/-- Lets time pass up to a moment; what never comes makes the script endless. -/
def waitUntil (s : State) (finish : Option Nat) : State :=
  match later s.world.time finish with
  | some time => s.withWorld { s.world with time }
  | none => s.withFlow .endless

/-- When the last one that keeps a channel open lets go of it. -/
def letGo (s : State) (wanted : Channel → Bool) : Option Nat :=
  (s.world.holders.filter fun h => h.channels.any wanted).foldl
    (fun time h => time.bind fun time => later time h.finish) (some s.world.time)

/-- How a process ended. -/
def outcome (s : State) : Outcome :=
  match s.flow with
  | .killed signal => .killed signal
  | .leave (some status) => .exited (status % 256)
  | _ => .exited (s.status % 256)

/-- Comes back from another process: what it did to the world stays, what it did to itself does not. -/
def backFrom (s inner : State) : State :=
  { s with
    world := { inner.world with disk := { inner.world.disk with cwd := s.world.disk.cwd } }
    status := inner.outcome.status
    flow := if inner.flow = .endless then .endless else s.flow }

/-- The function that a name stands for. -/
def functionOf? (s : State) (name : Octets) : Option Command := s.functions.lookup name

end State

/-! ## Signals -/

namespace Signal

/-- How many signals there are, one that is none included. -/
def count : Nat := 65

/-- The names of signals. -/
def names : List (Nat × String) :=
  let common := [(0, "EXIT"), (1, "HUP"), (2, "INT"), (3, "QUIT"), (4, "ILL"), (5, "TRAP"), (6, "ABRT"), (7, "BUS"),
    (8, "FPE"), (9, "KILL"), (10, "USR1"), (11, "SEGV"), (12, "USR2"), (13, "PIPE"), (14, "ALRM"), (15, "TERM"),
    (17, "CHLD"), (18, "CONT"), (19, "STOP"), (20, "TSTP"), (21, "TTIN"), (22, "TTOU"), (23, "URG"),
    (24, "XCPU"), (25, "XFSZ"), (26, "VTALRM"), (27, "PROF"), (28, "WINCH"), (29, "IO"), (30, "PWR"),
    (31, "SYS"), (34, "RTMIN"), (64, "RTMAX")]
  let low := (List.range 15).map fun i => (35 + i, s!"RTMIN+{i + 1}")
  let high := (List.range 14).map fun i => (50 + i, s!"RTMAX-{14 - i}")
  common ++ low ++ high

/-- What a signal is called in words. -/
def words : List (Nat × String) :=
  [(1, "Hangup"), (2, "Interrupt"), (3, "Quit"), (4, "Illegal instruction"), (5, "Trace/breakpoint trap"),
    (6, "Aborted"), (7, "Bus error"), (8, "Floating point exception"), (9, "Killed"),
    (10, "User defined signal 1"), (11, "Segmentation fault"), (12, "User defined signal 2"),
    (13, "Broken pipe"), (14, "Alarm clock"), (15, "Terminated"), (16, "Stack fault"),
    (24, "CPU time limit exceeded"), (25, "File size limit exceeded"), (26, "Virtual timer expired"),
    (27, "Profiling timer expired"), (29, "I/O possible"), (30, "Power failure"), (31, "Bad system call")]

/-- What a signal that has ended a process is called. -/
def description (signal : Nat) : String :=
  (words.lookup signal).getD
    (if 34 ≤ signal then s!"Real-time signal {signal - 34}" else s!"Unknown signal {signal}")

/-- The number of a signal given by number or name, `least` being the first that counts; 0 is the end of a
    script. -/
def ofText? (least : Nat) (cs : Octets) : Option Nat :=
  if Digits.isNumber cs then
    if Digits.value cs < count then some (Digits.value cs) else none
  else
    let name := (String.ofList cs).toUpper
    names.findSome? fun (n, known) => if least ≤ n && name = known then some n else none

/-- The name of a signal, or its number. -/
def nameOf (signal : Nat) : String := (names.lookup signal).getD (toString signal)

/-- Whether a process goes on as if there were no such signal. -/
def isHarmless (signal : Nat) : Bool := signal = 0 || [17, 18, 23, 28].contains signal

/-- Whether a process stops and waits. -/
def stops (signal : Nat) : Bool := [19, 20, 21, 22].contains signal

/-- Whether a process can do something about it. -/
def isCaught (signal : Nat) : Bool := signal ≠ 9 && signal ≠ 19

/-- What becomes of a process that a signal reaches. -/
def effect (signal : Nat) : Flow :=
  if isHarmless signal then .next else if stops signal then .endless else .killed signal

end Signal

/-- A job that a signal has reached at a time. -/
def Job.struck (j : Job) (signal time : Nat) : Job :=
  if j.finish.any (· ≤ time) || Signal.isHarmless signal || Signal.stops signal || j.ignored.contains signal then j
  else
    { j with
      finish := some time, outcome := .killed signal
      printed := j.printed.filter fun p => p.time ≤ time }

/-- Whether a signal that reaches a job at a time starts an action in it. -/
def Job.acts (j : Job) (signal time : Nat) : Bool := j.trapped.contains signal && !j.finish.any (· ≤ time)

namespace State

/-- Tells that a process was ended by a signal, unless it was interrupted or nobody read what it wrote. -/
def report (s : State) (outcome : Outcome) : State :=
  match outcome with
  | .killed signal =>
    if signal = 2 || signal = 13 then s else s.mention (Signal.description signal ++ "\n").toList
  | .exited _ => s

/-- Lets the process know that one that it has started is over. -/
def noticeEnd (s : State) : State :=
  if (s.traps.lookup 17).any (!·.isEmpty) then
    { s with world := { s.world with sent := ⟨s.process, 17, s.world.time⟩ :: s.world.sent } }
  else s

/-- Puts what a job has printed to the rest, now that its end is noticed. -/
def settleJob (s : State) (j : Job) : State :=
  let isNew := !s.world.gone.contains j.process
  let s := { s with
    jobs := s.jobs.map fun (k : Job) => if k.process = j.process then { k with printed := [] } else k
    world := { s.world with printed := j.printed ++ s.world.printed, gone := j.process :: s.world.gone } }
  if isNew then s.noticeEnd else s

/-- Notices the ends of the jobs that are over by now. -/
def settleJobs (s : State) : State :=
  (s.jobs.filter fun j => j.finish.any (· ≤ s.world.time)).foldl settleJob s


/-- Lets a signal act on a job that has no action for it. -/
def strikeNow (s : State) (target signal time : Nat) : State :=
  let jobs := s.jobs.map fun j => if j.process = target then j.struck signal time else j
  let finish := (jobs.find? fun j => j.process = target).bind (·.finish)
  let holders := s.world.holders.map fun h => if h.process = target then { h with finish } else h
  { s with jobs, world := { s.world with holders } }

/-- Lets a signal reach a job at a time. A job that has an action for it has to know of it ahead. -/
def strike (s : State) (target signal time : Nat) : State :=
  let sent : Sent := ⟨target, signal, time⟩
  if s.world.foretold.contains sent then s
  else if s.jobs.any fun j => j.process = target && j.acts signal time then
    { s with world := { s.world with surprises := sent :: s.world.surprises } }
  else s.strikeNow target signal time

/-- Sends a signal to a process. -/
def send (s : State) (target signal : Nat) : State :=
  if s.jobs.any fun j => j.process = target then s.strike target signal s.world.time
  else { s with world := { s.world with sent := ⟨target, signal, s.world.time⟩ :: s.world.sent } }

/-- Whether there is such a process. -/
def isKnown (s : State) (target : Nat) : Bool :=
  target = s.process || s.ancestors.contains target
    || (firstProcess < target && target ≤ firstProcess + s.world.issued && !s.world.gone.contains target)

/-- Takes the signals that have arrived at the process or its jobs. -/
def takeSignals (s : State) : List Nat × State :=
  let (here, others) := s.world.sent.partition fun m => m.process = s.process && m.time ≤ s.world.time
  let (toJobs, others) := others.partition fun m => s.jobs.any (·.process = m.process)
  let s := { s with world := { s.world with sent := others } }
  let s := toJobs.foldl (fun s m => s.strike m.process m.signal m.time) s
  ((here.map (·.signal)).eraseDups.mergeSort (· ≤ ·), s)

end State

end ProtoTree.Shell
