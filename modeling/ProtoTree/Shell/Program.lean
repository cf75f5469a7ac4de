import ProtoTree.FileSystem.Disk
import ProtoTree.Text.Octets

/-! # Programs on a disk

What running a file comes down to: a program of the system, or a script with
the interpreter that its first line names.
-/

namespace ProtoTree.Shell

open Text (Bytes Octets)

/-- How many bytes of a file its first line is looked for in. -/
def firstLineLimit : Nat := 255

/-- The interpreter and the argument that the first line of a script names. The name of an interpreter has to be
    there as a whole, and is empty when the file ends before it; an argument may be cut off. -/
def interpreter? (content : Bytes) : Option (Octets × Option Octets) :=
  match Octets.ofBytes (content.take (firstLineLimit + 1)) with
  | '#' :: '!' :: rest =>
    let isSpace (c : Char) : Bool := c == ' ' || c == '\t'
    let isEnd (c : Char) : Bool := isSpace c || c == '\x00'
    let line := rest.takeWhile (· != '\n')
    let isWhole := line.length < rest.length
    let isPadded := content.length ≤ firstLineLimit
    let line := if isWhole then (line.reverse.dropWhile isSpace).reverse else line.take (firstLineLimit - 2)
    let line := line.dropWhile isSpace
    let name := line.takeWhile (!isEnd ·)
    let argument := ((line.drop name.length).dropWhile isSpace).takeWhile (· != '\x00')
    let hasArgument := (line.drop name.length).head?.any isSpace && !argument.isEmpty
    if name.isEmpty && (isWhole || !isPadded) then none
    else if !(isWhole || isPadded || name.length < line.length) then none
    else some (name, if hasArgument then some argument else none)
  | _ => none

/-- What running a file comes down to. -/
structure Loaded where
  utility : String
  /-- The name that the utility runs under, unless it is the one it was asked for by. -/
  name : Option Octets
  /-- What is put before the arguments: each interpreter's own argument and the file it interprets. -/
  before : List Octets
  deriving Repr, Inhabited

/-- What running a file comes down to, through at most `depth` interpreters. -/
def load (depth : Nat) (disk : Disk) (file : Octets) : Except SystemError Loaded :=
  match disk.numberOf? ⟨Octets.toBytes file⟩ true with
  | .error e => .error e
  | .ok n =>
    match disk.entryAt n with
    | .program name => .ok ⟨name, none, []⟩
    | .file content =>
      if !disk.isExecutable n then .error .accessDenied
      else
        match depth, interpreter? content with
        | _, none => .error .execFormat
        | 0, some _ => .error .tooManyLinks
        | _, some ([], _) => .error .accessDenied
        | depth + 1, some (program, argument) =>
          match load depth disk program with
          | .ok inner =>
            .ok ⟨inner.utility, some (inner.name.getD program), inner.before ++ argument.toList ++ [file]⟩
          | .error e => .error e
    | _ => .error .accessDenied

/-- How many interpreters may interpret each other. -/
def interpreterLimit : Nat := 5

/-- The candidates of a program that is not given by a path. -/
def searched (dirs : List Path) (name : Path) : List Path := dirs.map fun dir => dir.join name

end ProtoTree.Shell
