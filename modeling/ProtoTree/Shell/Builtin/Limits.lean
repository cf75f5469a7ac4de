import ProtoTree.Shell.Builtin.Basic

/-! # What a process may do

The permissions that new files do not get, and how much a process may use.
-/

namespace ProtoTree.Shell

open Text (Octets)

namespace State

open Builtin

/-- A number in octal digits, four of them at least. -/
def octalMode (n : Nat) : Octets :=
  let digits := Nat.toDigits 8 n
  List.replicate (4 - digits.length) '0' ++ digits

/-- The permissions that a mask leaves, in letters. -/
def shownMask (mask : Nat) : Octets :=
  let left (shift : Nat) : Octets :=
    let bits := (0o777 ^^^ mask) >>> shift
    (if bits &&& 4 ≠ 0 then ['r'] else []) ++ (if bits &&& 2 ≠ 0 then ['w'] else [])
      ++ (if bits &&& 1 ≠ 0 then ['x'] else [])
  "u=".toList ++ left 6 ++ ",g=".toList ++ left 3 ++ ",o=".toList ++ left 0

/-- The places of the users that letters name. -/
def userPlaces (letters : Octets) : Nat :=
  letters.foldl (fun places c =>
    places ||| (if c == 'u' then 0o100 else if c == 'g' then 0o010 else if c == 'o' then 0o001 else 0o111)) 0

/-- The permissions that letters name, given those before. -/
def letterBits (before : Nat) (letters : Octets) : Nat :=
  letters.foldl (fun bits c =>
    bits ||| match c with
      | 'r' => 4
      | 'w' => 2
      | 'x' => 1
      | 'u' => before >>> 6
      | 'g' => before >>> 3
      | 'o' => before
      | 'X' => if before &&& 0o111 ≠ 0 then 1 else 0
      | _ => 0) 0

/-- The permissions that clauses in letters leave; `places` are those of the users named so far. -/
def changedMode (fuel before places : Nat) (mode : Nat) (text : Octets) : Option Nat :=
  match fuel, text with
  | 0, _ | _, [] => some mode
  | fuel + 1, text =>
    let users := text.takeWhile "augo".toList.contains
    let named := places ||| userPlaces users
    let named := if named = 0 then 0o111 else named
    match text.drop users.length with
    | [] => some mode
    | operator :: rest =>
      if !"=+-".toList.contains operator then none
      else
        let letters := rest.takeWhile "rwxugoXs".toList.contains
        let bits := (letterBits before letters % 8) * named
        let mode := match operator with
          | '-' => mode &&& (0o777 ^^^ bits)
          | '+' => mode ||| bits
          | _ => bits ||| (mode &&& (0o777 ^^^ (named * 7)))
        match rest.drop letters.length with
        | ',' :: rest => changedMode fuel before 0 mode rest
        | [] => some mode
        | c :: rest => if "=+-".toList.contains c then changedMode fuel before named mode (c :: rest) else none

/-- Shows or changes the permissions that new files do not get. -/
def changeMask (s : State) (args : List Octets) : State :=
  s.withOptions "S" args fun flags args =>
    match args with
    | [] => s.print ((if flags.isEmpty then octalMode s.mask else shownMask s.mask) ++ ['\n'])
    | text :: _ =>
      if text.head?.any Char.isDigit then
        if text.all Digits.isOctal then { s with mask := Digits.valueIn 8 text % 512, status := 0 }
        else s.abortNumber text
      else
        let left := 0o777 ^^^ s.mask
        match changedMode text.length.succ left 0 left text with
        | some mode => { s with mask := 0o777 ^^^ (mode &&& 0o777), status := 0 }
        | none => s.abort s!"Illegal mode: {String.ofList text}"

/-- What is limited: a letter, how it is called, and how much of it there may be. -/
def limits : List (Char × String × String) :=
  [('t', "time(seconds)", "unlimited"), ('f', "file(blocks)", "unlimited"), ('d', "data(kbytes)", "unlimited"),
    ('s', "stack(kbytes)", "8192"), ('c', "coredump(blocks)", "0"), ('m', "memory(kbytes)", "unlimited"),
    ('l', "locked memory(kbytes)", "8192"), ('p', "process", "unlimited"), ('n', "nofiles", "1048576"),
    ('v', "vmemory(kbytes)", "unlimited"), ('w', "locks", "unlimited"), ('r', "rtprio", "0")]

/-- How much there may be of something. -/
def limitOf (s : State) (letter : Char) : Octets :=
  (s.limited.lookup letter).getD
    (((limits.find? fun l => l.1 == letter).map fun l => l.2.2.toList).getD [])

/-- Shows or changes how much there may be of something. -/
def changeLimit (s : State) (args : List Octets) : State :=
  s.withOptions "HSatfdscmlpnvwr" args fun flags args =>
    let what := ((flags.filter fun f => !"HSa".toList.contains f.1).getLast?.map (·.1)).getD 'f'
    let all := flags.any (·.1 == 'a')
    match args with
    | [] =>
      if all then
        s.print <| limits.flatMap fun (letter, title, _) =>
          title.toList ++ List.replicate (20 - title.length) ' ' ++ ' ' :: s.limitOf letter ++ ['\n']
      else s.print (s.limitOf what ++ ['\n'])
    | value :: more =>
      if all || !more.isEmpty then s.abort "too many arguments"
      else if value ≠ "unlimited".toList && !value.all Char.isDigit then s.abort "bad number"
      else { s with limited := (what, value) :: s.limited, status := 0 }

/-- Shows how much time was used. None is measured. -/
def showTimes (s : State) : State :=
  s.print "0m0.000000s 0m0.000000s\n0m0.000000s 0m0.000000s\n".toList

end State

end ProtoTree.Shell
