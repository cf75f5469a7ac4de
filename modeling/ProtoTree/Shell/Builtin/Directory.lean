import ProtoTree.Shell.Builtin.Basic

/-! # The current directory

A script knows its directory by the way it was spelled; links in it are only
looked through when that is asked for.
-/

namespace ProtoTree.Shell

open Text (Octets)

namespace State

open Builtin

/-- The absolute path that a path comes down to by its spelling alone. Two separators at its start are kept. -/
def spelled (dir path : Octets) : Octets :=
  let all := if path.head? = some '/' then path else if dir.getLast? = some '/' then dir ++ path else dir ++ '/' :: path
  let parts := (all.splitOn '/').foldl (fun done part =>
    if part = [] || part = ['.'] then done
    else if part = ['.', '.'] then done.tail
    else part :: done) []
  let doubled := ['/', '/'].isPrefixOf all && !(['/', '/', '/'].isPrefixOf all)
  (if doubled then ['/', '/'] else ['/']) ++ ['/'].intercalate parts.reverse

/-- The current directory without links. -/
def physicalDir (s : State) : Octets := s.placeOf s.disk.cwd

/-- Gives a variable of the shell's own a value that programs see. -/
def recordDir (s : State) (name : String) (dir : Octets) : State :=
  let s := s.assign name.toList dir
  if s.goesOn then remark (fun v => { v with exported := true }) s name.toList else s

/-- Goes to a directory, unless it is not there. -/
def enterDir (s : State) (physical : Bool) (target : Octets) : Option State :=
  let target := if physical then target else spelled s.dir target
  match s.disk.enter (path target) with
  | .error _ => none
  | .ok disk =>
    let before := s.dir
    let s := s.withDisk disk
    let s := { s with
      dir := if physical then s.physicalDir else target
      tracked := s.tracked.map fun (t : Tracked) => { t with stale := true } }
    let s := s.recordDir "OLDPWD" before
    some (if s.goesOn then s.recordDir "PWD" s.dir else s)

/-- Whether a path says where it starts. -/
def hasOwnStart (file : Octets) : Bool :=
  file.head? = some '/' || file = ['.'] || file = ['.', '.'] || ['.', '/'].isPrefixOf file
    || ['.', '.', '/'].isPrefixOf file

/-- The first directory of a name that is found in the search path for directories, and whether it is told. -/
def searchedDir? (s : State) (name : Octets) : Option (Octets × Bool) :=
  (s.valueOf? "CDPATH".toList).bind fun search =>
    (search.splitOn ':').findSome? fun dir =>
      let file := if dir.isEmpty then name else dir ++ '/' :: name
      if s.isDir file then some (file, !dir.isEmpty) else none

/-- Whether the last of some options asks for paths without links. -/
def asksPhysical (flags : List Flag) : Bool := (flags.getLast?.map (·.1)) = some 'P'

/-- Changes the directory. -/
def changeDir (s : State) (args : List Octets) : State :=
  s.withOptions "LP" args fun flags args =>
    let back := args.head? = some ['-']
    let asked := match args with
      | [] => s.home?.getD []
      | arg :: _ => if back then (s.valueOf? "OLDPWD".toList).getD [] else arg
    let named := if asked.isEmpty then ['.'] else asked
    let (target, told) :=
      if hasOwnStart asked then (asked, false) else (s.searchedDir? named).getD (named, false)
    match s.enterDir (asksPhysical flags) target with
    | none => s.abort s!"can't cd to {String.ofList asked}"
    | some s =>
      if !s.goesOn then s
      else if back || told then s.print (s.dir ++ ['\n'])
      else s.withStatus 0

/-- Prints the current directory. -/
def printDir (s : State) (args : List Octets) : State :=
  s.withOptions "LP" args fun flags _ =>
    s.print ((if asksPhysical flags then s.physicalDir else s.dir) ++ ['\n'])

end State

end ProtoTree.Shell
