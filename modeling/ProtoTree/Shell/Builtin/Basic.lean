import ProtoTree.Shell.Grammar
import ProtoTree.Shell.State

/-! # Names and options of shell commands

The commands that are part of the shell, and how they take their arguments.
-/

namespace ProtoTree.Shell

open Text (Octets)

namespace Builtin

/-- The commands whose failure ends a script. -/
def special : List String := "local" :: Grammar.specialCommands

/-- The other commands that are part of the shell. -/
def regular : List String :=
  ["[", "alias", "bg", "cd", "chdir", "command", "echo", "false", "fg", "getopts", "hash", "jobs", "kill",
    "printf", "pwd", "read", "test", "true", "type", "ulimit", "umask", "unalias", "wait"]

def isSpecial (name : Octets) : Bool := special.contains (String.ofList name)

def isBuiltin (name : Octets) : Bool := isSpecial name || regular.contains (String.ofList name)

/-- The commands whose arguments may be assignments. -/
def takesAssignments (name : Octets) : Bool :=
  ["alias", "export", "readonly", "local"].contains (String.ofList name)

/-- An option with its value, which is empty when it takes none. -/
abbrev Flag := Char × Octets

/-- Whether a letter among others takes a value, which a colon behind it tells; none when it is not there. -/
def letterKind? (letter : Char) : Octets → Option Bool
  | c :: ':' :: rest => if c == letter then some true else letterKind? letter rest
  | c :: rest => if c == letter then some false else letterKind? letter rest
  | [] => none

/-- The options in front of some arguments and the arguments after them. In `known`, a letter with a colon behind
    it takes a value. -/
def takeOptions (known : Octets) : List Octets → Except String (List Flag × List Octets)
  | [] => .ok ([], [])
  | arg :: rest =>
    match arg with
    | ['-', '-'] => .ok ([], rest)
    | '-' :: c :: letters => cluster rest (c :: letters)
    | arg => .ok ([], arg :: rest)
where
  /-- The options that letters are, and those in the arguments behind them. -/
  cluster (rest : List Octets) : Octets → Except String (List Flag × List Octets)
    | [] => takeOptions known rest
    | c :: letters => do
      match letterKind? c known with
      | none => throw s!"Illegal option -{String.ofList [c]}"
      | some false =>
        let (more, args) ← cluster rest letters
        return ((c, []) :: more, args)
      | some true =>
        if letters.isEmpty then
          match rest with
          | value :: rest =>
            let (more, args) ← takeOptions known rest
            return ((c, value) :: more, args)
          | [] => throw s!"No arg for -{String.ofList [c]} option"
        else
          let (more, args) ← takeOptions known rest
          return ((c, letters) :: more, args)

/-- The name and value of an argument that sets a variable. -/
def splitAssignment (arg : Octets) : Octets × Option Octets :=
  let name := arg.takeWhile (· != '=')
  (name, if name.length < arg.length then some (arg.drop (name.length + 1)) else none)

/-- The parts between single quotes and the runs of them. -/
def quoteRuns (fuel : Nat) (cs : Octets) : Octets :=
  match fuel with
  | 0 => []
  | fuel + 1 =>
    let text := cs.takeWhile (· != '\'')
    let rest := cs.drop text.length
    let marks := rest.takeWhile (· == '\'')
    let after := rest.drop marks.length
    '\'' :: text ++ ['\''] ++
      (if marks.isEmpty then [] else '"' :: marks ++ ['"'] ++ if after.isEmpty then [] else quoteRuns fuel after)

/-- A text in single quotes. -/
def singleQuoted (cs : Octets) : Octets := quoteRuns cs.length.succ cs

end Builtin

namespace State

open Builtin

/-- Goes on with the options and arguments of a command, unless there is something wrong with its options. -/
def withOptions (s : State) (known : String) (args : List Octets)
    (act : List Flag → List Octets → State) : State :=
  match takeOptions known.toList args with
  | .ok (flags, args) => act flags args
  | .error reason => s.abort reason

/-- Cannot go on because of a text that should be a number. -/
def abortNumber (s : State) (text : Octets) : State := s.abort s!"Illegal number: {String.ofList text}"

/-- The number that the first argument is; without one, `unset`. -/
def withCount (s : State) (args : List Octets) (unset : Nat) (act : Nat → State) : State :=
  match args with
  | [] => act unset
  | arg :: _ =>
    match Arithmetic.readCount? arg with
    | some n => act n
    | none => s.abortNumber arg

end State

end ProtoTree.Shell
