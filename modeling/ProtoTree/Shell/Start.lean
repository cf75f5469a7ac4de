import ProtoTree.Shell.Builtin
import ProtoTree.Shell.Program
import ProtoTree.Shell.Redirect

/-! # Starting programs and shells

What a program gets from the script that starts it, where it is found, and
what a shell knows before its script runs.
-/

namespace ProtoTree.Shell

open Text (Octets)

namespace State

open Builtin

/-! ## Programs -/

/-- What a program gets from the script that starts it. -/
def forProgram (s : State) : State :=
  { s with
    within := []
    bindings := s.environment.map fun (name, value) => (name, { value := some value, exported := true })
    functions := [], aliases := [], tracked := [], choosing := {}
    frames := [], traps := [], ignored := s.allIgnored, options := [], jobs := [], latest := none
    loops := 0, depth := 0 }

/-- What the first of some files comes down to that can be started. A file that names no interpreter is a script. -/
def firstStartable (s : State) (last : SystemError) : List Octets → Except SystemError Loaded
  | [] => .error last
  | file :: rest =>
    match load interpreterLimit s.disk file with
    | .ok loaded => .ok loaded
    | .error e =>
      if e = .execFormat then .ok ⟨"sh", some "/bin/sh".toList, [file]⟩
      else firstStartable s (if e = .notFound || e = .notDirectory then last else e) rest

/-- The status and the message for a program that cannot be started. -/
def startFault (e : SystemError) (name : Octets) : Nat × String :=
  let isMissing := e = .notFound || e = .notDirectory
  let status := if isMissing || e = .tooManyLinks || e = .nameTooLong then 127 else 126
  (status, String.ofList name ++ ": " ++ if isMissing then "not found" else e.wording)

/-- The shell as it looks for the programs of the system. -/
def withUsualPath (s : State) : State := s.putVariable "PATH".toList (some { value := some usualPath })

/-- The files that may be the program of a name, from where it was found first; none when it is not found. -/
def programFiles (s : State) (usual : Bool) (name : Octets) : Option (List Octets) × State :=
  if name.contains '/' then (some [name], s)
  else if usual then
    let inner := s.withUsualPath
    ((inner.placeOfProgram? name).map fun place => (inner.candidates name).drop place, s)
  else
    let (place, s) := s.search name
    (place.map fun place => (s.candidates name).drop place, s)

/-- What is said about a program that is not found anywhere. -/
def missingFault (s : State) (name : Octets) : String :=
  let isThere := (s.candidates name).any fun file => (s.statOf? file).isOk
  String.ofList name ++ ": " ++ if isThere then SystemError.accessDenied.wording else "not found"

/-- The file that is read as a part of the script. -/
def scriptFile? (s : State) (file : Octets) : Option Octets :=
  if file.contains '/' then some file
  else (s.candidates file).find? fun f => s.disk.isFile (path f)

/-! ## Shells -/

/-- The variables that a shell has before it looks at those that it was given. -/
def ownBindings : List (Octets × Variable) :=
  let own (name value : String) : Octets × Variable :=
    (name.toList, { value := some value.toList, lasting := true })
  [own "OPTIND" "1", own "PS4" "+ ", own "PS2" "> ", own "PS1" "# ", ("PATH".toList, ⟨some usualPath, false, false, true⟩),
    ("MAILPATH".toList, { lasting := true }), ("MAIL".toList, { lasting := true }), own "IFS" " \t\n"]

/-- Gives a variable a value whatever it is marked as. -/
def overwrite (s : State) (name : String) (value : Octets) : State :=
  s.putVariable name.toList (some { (s.binding? name.toList).getD {} with value := some value })

/-- The directory as it was spelled for the process before, if that is where the shell is. -/
def givenDir? (s : State) : Option Octets :=
  (s.valueOf? "PWD".toList).filter fun dir =>
    dir.head? = some '/' && (s.disk.directory (path dir)).toOption = some s.disk.cwd

/-- A shell at its start. -/
def newShell (s : State) (name : Octets) : State :=
  let given := s.bindings.filter fun (name, _) => Name.isName name
  let s := { s with
    name, args := [], bindings := ownBindings, shell := s.process, status := 0, substituted := 0, line := 0 }
  let s := given.foldl (fun (s : State) (name, v) =>
    s.putVariable name (some { (s.binding? name).getD {} with value := v.value, exported := true })) s
  let s := (s.overwrite "IFS" " \t\n".toList).overwrite "OPTIND" ['1']
  let s := s.overwrite "PPID" (Digits.ofNat (s.ancestors.headD (firstProcess - 1)))
  let s := { s with dir := s.givenDir?.getD s.physicalDir }
  (s.setVariable "PWD".toList s.dir).remark (fun v => { v with exported := true }) "PWD".toList

/-- The text of a script, and whether it is shown as it is read when the script asks for that. -/
structure ScriptText where
  text : Octets
  echoes : Bool
  deriving Repr, Inhabited

/-- Prints the options of a shell that starts: all are on that were not turned `off`. -/
def printStartOptions (s : State) (asCommands : Bool) (off : List Char) : State :=
  let on := (namedOptions.map (·.2)).filter fun letter => !off.contains letter
  s.print ({ s with options := on }.shownOptions asCommands)

/-- Sets the options of a shell, of which some were turned `off`; whether one of them was for a script among the
    arguments, and the arguments behind the options. -/
def startOptions (fuel : Nat) (s : State) (off : List Char) (args : List Octets) :
    Except String (State × Bool × List Octets) :=
  match fuel, args with
  | 0, _ | _, [] => .ok (s, false, args)
  | fuel + 1, arg :: rest =>
    match arg with
    | ['-'] | ['-', '-'] => .ok (s, false, rest)
    | sign :: letters =>
      if sign ≠ '-' && sign ≠ '+' then .ok (s, false, args)
      else do
        let own := letters.filter fun letter => letter ≠ 'c' && letter ≠ 'l'
        let (s, shown, used) ← s.takeLetters (sign == '-') rest.head? own
        let off := if sign = '+' then letters ++ off else off.filter (!letters.contains ·)
        let s := if shown.isEmpty then s else s.printStartOptions (sign == '+') off
        let (s, asks, rest) ← s.startOptions fuel off (if used then rest.tail else rest)
        return (s, asks || letters.contains 'c', rest)
    | [] => .ok (s, false, args)

/-- What is left to read as a script. -/
def inputScript (s : State) : State × ScriptText :=
  let (bytes, s) := s.takeInput
  (s, ⟨(Octets.ofBytes bytes).filter (· != '\x00'), true⟩)

/-- The content of a file as a script. -/
def fileScript (s : State) (file : Octets) : Except String ScriptText :=
  match s.statOf? file with
  | .error e => .error (openFault .read e file)
  | .ok (.file bytes) => .ok ⟨(Octets.ofBytes bytes).filter (· != '\x00'), true⟩
  | .ok (.device "stdin") => .ok (s.inputScript).2
  | .ok _ => .ok ⟨[], true⟩

/-- The shell with its options and arguments, and the scripts that it is to run. -/
def startScripts (s : State) (args : List Octets) : Except State (State × List ScriptText) :=
  match s.startOptions args.length.succ [] args with
  | .error reason => .error (s.fail 2 reason)
  | .ok (s, asks, words) =>
    if asks then
      match words with
      | [] => .error (s.fail 2 "-c requires an argument")
      | text :: rest =>
        let s := { s with name := rest.headD s.name, args := rest.tail }
        if s.options.contains 's' then
          let (s, input) := s.inputScript
          .ok (s, [⟨text, false⟩, input])
        else .ok (s, [⟨text, false⟩])
    else if words.isEmpty || s.options.contains 's' then
      let (s, input) := ({ s with args := words }.putOption 's' true).inputScript
      .ok (s, [input])
    else
      let file := words.headD []
      match s.fileScript file with
      | .ok text => .ok ({ s with name := file, args := words.tail }, [text])
      | .error reason => .error (s.fail 2 reason)

end State

/-! ## Calls -/

/-- What the words of a command ask for. -/
structure Call where
  /-- The name and the arguments, without `command` and its options in front of them. -/
  words : List Octets
  /-- The name stands for no function. -/
  direct : Bool := false
  /-- Programs are looked for where the system has its own. -/
  usual : Bool := false
  /-- A failure ends the script. -/
  special : Bool := false
  deriving Repr, Inhabited

namespace Call

def name (c : Call) : Octets := c.words.headD []

/-- The function that is called. -/
def function? (c : Call) (s : State) : Option Command := if c.direct then none else s.functionOf? c.name

/-- Whether a command of the shell is called. -/
def isBuiltin (c : Call) (s : State) : Bool := (c.function? s).isNone && Builtin.isBuiltin c.name

/-- The words behind the options of `command`, and whether one of the options was for the usual programs; none when
    there are no such words or it is not to run them. -/
def operands? : List Octets → Option (List Octets × Bool)
  | [] => none
  | ['-', '-'] :: rest => if rest.isEmpty then none else some (rest, false)
  | ('-' :: c :: letters) :: rest =>
    if (c :: letters).all (· == 'p') then (operands? rest).map fun (words, _) => (words, true) else none
  | words => some (words, false)

/-- The call without `command` in front. -/
def bare (s : State) (fuel : Nat) (c : Call) : Call :=
  match fuel with
  | 0 => c
  | fuel + 1 =>
    if c.name = "command".toList && (c.function? s).isNone then
      match operands? c.words.tail with
      | some (words, usual) => bare s fuel { words, direct := true, usual := c.usual || usual }
      | none => { c with special := false }
    else c

/-- What some words ask for. -/
def ofWords (s : State) (words : List Octets) : Call :=
  let c : Call := { words }
  bare s words.length { c with special := (c.function? s).isNone && Builtin.isSpecial c.name }

/-- Whether arguments that look like assignments are assignments. -/
def takesAssignments (c : Call) (s : State) : Bool := c.isBuiltin s && Builtin.takesAssignments c.name

/-- Whether the redirections of the command stay. -/
def keepsRedirections (c : Call) (s : State) : Bool := c.isBuiltin s && c.name = "exec".toList

end Call

end ProtoTree.Shell
