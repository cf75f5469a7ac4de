import ProtoTree.Shell.State

/-! # Redirections

Where the descriptors of a command lead once the words of its redirections are
known. A file is opened again each time it is named, so each opening has a
place in the file of its own.
-/

namespace ProtoTree.Shell

open Text (Octets)

/-- A redirection whose words are worked out. -/
inductive Opening where
  | file (descriptor : Nat) (mode : OpenMode) (path : Octets)
  /-- To where another descriptor leads, or nowhere at all. -/
  | copy (descriptor : Nat) (source : Option Nat)
  | document (descriptor number : Nat)
  deriving DecidableEq, Inhabited

namespace Opening

/-- The descriptor that is led elsewhere. -/
def descriptor : Opening → Nat
  | file descriptor _ _ | copy descriptor _ | document descriptor _ => descriptor

end Opening

namespace State

/-- What is said about a file that cannot be opened. -/
def openFault (mode : OpenMode) (e : SystemError) (file : Octets) : String :=
  let isMissing := e = .notFound || e = .notDirectory
  let (action, missing) :=
    if mode = .read then ("open", "No such file") else ("create", "Directory nonexistent")
  let reason := if isMissing then missing else e.wording
  s!"cannot {action} {String.ofList file}: {reason}"

/-- The descriptor that the name of a device stands for. -/
def descriptorOfDevice? : String → Option Nat
  | "stdin" => some 0
  | "stdout" => some 1
  | "stderr" => some 2
  | _ => none

/-- The descriptor that a path stands for. -/
def descriptorOfPath? (file : Octets) : Option Nat :=
  ["/dev/fd/".toList, "/proc/self/fd/".toList].findSome? fun dir =>
    let digits := file.drop dir.length
    if dir.isPrefixOf file && Digits.isNumber digits then some (Digits.value digits) else none

/-- Opens a file of the disk. What is written over is emptied first. -/
def openFile (s : State) (mode : OpenMode) (n : Nat) : Except SystemError (Channel × State) :=
  if s.disk.entryAt n = .directory && mode ≠ .read then .error .isDirectory
  else
    let s := if mode = .write || mode = .overwrite then s.setContent n [] else s
    .ok (s.openEntry
      { entry := n, appends := mode = .append, readable := mode = .read || mode = .readWrite
        writable := mode ≠ .read })

/-- Opens again what a descriptor leads to. -/
def openDescriptor (s : State) (mode : OpenMode) (descriptor : Nat) : Except SystemError (Channel × State) :=
  match s.descriptors.lookup descriptor with
  | none => .error .notFound
  | some (.file k) => (s.world.openFiles[k]?).elim (.error .notFound) fun f => s.openFile mode f.entry
  | some channel => .ok (channel, s)

/-- Opens an entry of the disk. -/
def openNumber (s : State) (mode : OpenMode) (n : Nat) : Except SystemError (Channel × State) :=
  match s.disk.entryAt n with
  | .device "null" => .ok (.nowhere, s)
  | .device "zero" => .ok (.zeros, s)
  | .device "full" => .ok (.full, s)
  | .device name => (descriptorOfDevice? name).elim (.ok (.nowhere, s)) (s.openDescriptor mode)
  | _ => s.openFile mode n

/-- Opens what a path leads to; only files that are not there may be written to if the script has asked for that. -/
def openPath (s : State) (mode : OpenMode) (file : Octets) : Except SystemError (Channel × State) :=
  match descriptorOfPath? file with
  | some descriptor => s.openDescriptor mode descriptor
  | none =>
    match s.disk.spot? (path file) true with
    | .error e => .error e
    | .ok (.entry n) =>
      let isFile := (s.disk.entryAt n).isFile
      if mode = .write && s.options.contains 'C' && isFile then .error .alreadyExists else s.openNumber mode n
    | .ok (.vacant name) =>
      if mode = .read then .error .notFound
      else if mode = .write && s.options.contains 'C' && (s.entryOf? file false).isOk then .error .alreadyExists
      else if file.getLast? = some '/' then .error .isDirectory
      else (s.makeEntry name (.file []) 0o666).openNumber mode s.disk.entries.size

/-- The descriptor that the word of a redirection names; `-` closes. -/
def descriptorNamed? : Octets → Option (Option Nat)
  | ['-'] => some none
  | [c] => if c.isDigit then some (some (Digits.digitValue c)) else none
  | _ => none

/-- Leads a descriptor to where another one leads, or closes it; a descriptor that is closed leads nowhere. -/
def copyDescriptor (s : State) (descriptor : Nat) (source : Option Nat) : State × Bool :=
  match source with
  | none => (s.lead descriptor none, true)
  | some n =>
    if n = descriptor then (s, true)
    else
      match s.descriptors.lookup n with
      | some channel => (s.lead descriptor (some channel), true)
      | none => ((s.lead descriptor none).fail 2 s!"{n}: Bad file descriptor", false)

/-- Brings descriptors back to where they have led before. -/
def takeBack (before : State) (openings : List Opening) (done : State) : State :=
  if done.flow = .replaced then done
  else
    openings.foldl (fun (s : State) opening =>
      s.lead opening.descriptor (before.descriptors.lookup opening.descriptor)) done

end State

end ProtoTree.Shell
