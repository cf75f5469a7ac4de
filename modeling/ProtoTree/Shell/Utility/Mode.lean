import ProtoTree.Shell.Utility.Basic

/-! # Permissions

How permissions are written and changed: in octal digits, or by clauses of
users, an operator and letters.
-/

namespace ProtoTree.Shell.Utility

open Text (Octets)

/-- Where the permissions of a clause come from besides the letters in it. -/
inductive ModeSource where
  | letters
  /-- Those that some users have already. -/
  | existing
  /-- The one to run, if somebody has it. -/
  | runIfAny
  deriving DecidableEq, Repr, Inhabited

/-- One change of permissions. -/
structure ModeChange where
  operator : Char
  source : ModeSource
  /-- The permissions of the users that are named; 0 for those that the mask leaves. -/
  affected : Nat
  value : Nat
  /-- The permissions that are named. -/
  mentioned : Nat
  deriving DecidableEq, Repr, Inhabited

namespace ModeChange

/-- All permissions. -/
def all : Nat := 0o7777

/-- The bits that are in one number and not in another. -/
def without (a b : Nat) : Nat := a &&& (b ^^^ (a ||| b))

/-- Whether some bits are set. -/
def meets (a b : Nat) : Bool := a &&& b ≠ 0

/-- The permissions after a change. -/
def apply (isDir : Bool) (mask : Nat) (mode : Nat) (c : ModeChange) : Nat :=
  let omitted := if isDir then without 0o6000 c.mentioned else 0
  let value := match c.source with
    | .letters => c.value
    | .existing =>
      let own := c.value &&& mode
      (if meets own 0o444 then 0o444 else 0) ||| (if meets own 0o222 then 0o222 else 0)
        ||| (if meets own 0o111 then 0o111 else 0)
    | .runIfAny => if isDir || meets mode 0o111 then c.value ||| 0o111 else c.value
  let value := without (value &&& (if c.affected = 0 then without all mask else c.affected)) omitted
  match c.operator with
  | '+' => mode ||| value
  | '-' => without mode value
  | _ => (mode &&& ((if c.affected = 0 then 0 else without all c.affected) ||| omitted)) ||| value

/-- The permissions of the users that letters name. -/
def usersOf (letters : Octets) : Nat :=
  letters.foldl (fun bits c =>
    bits ||| (if c == 'u' then 0o4700 else if c == 'g' then 0o2070 else if c == 'o' then 0o1007 else all)) 0

/-- The permissions that letters name. -/
def lettersOf (letters : Octets) : Nat :=
  letters.foldl (fun bits c =>
    bits ||| match c with
      | 'r' => 0o444
      | 'w' => 0o222
      | 'x' => 0o111
      | 's' => 0o6000
      | 't' => 0o1000
      | _ => 0) 0

/-- The changes behind some users, and the rest. -/
def operations (fuel affected : Nat) (cs : Octets) : Option (List ModeChange × Octets) :=
  match fuel, cs with
  | 0, _ | _, [] => some ([], cs)
  | fuel + 1, operator :: rest =>
    if !"=+-".toList.contains operator then some ([], cs)
    else
      let digits := rest.takeWhile Digits.isOctal
      if !digits.isEmpty then
        let after := rest.drop digits.length
        let n := Digits.valueIn 8 digits
        if affected ≠ 0 || all < n || !(after.head?.all (· == ',')) then none
        else some ([⟨operator, .letters, all, n, all⟩], after)
      else
        let (change, after) : ModeChange × Octets :=
          let copied (value : Nat) : ModeChange :=
            ⟨operator, .existing, affected, value, if affected = 0 then value else affected &&& value⟩
          match rest with
          | 'u' :: after => (copied 0o700, after)
          | 'g' :: after => (copied 0o070, after)
          | 'o' :: after => (copied 0o007, after)
          | rest =>
            let letters := rest.takeWhile "rwxXst".toList.contains
            let value := lettersOf letters
            (⟨operator, if letters.contains 'X' then .runIfAny else .letters, affected, value,
              if affected = 0 then value else affected &&& value⟩, rest.drop letters.length)
        (operations fuel affected after).map fun (more, after) => (change :: more, after)

/-- The changes of clauses with commas between them. -/
def clauses (fuel : Nat) (cs : Octets) : Option (List ModeChange) :=
  match fuel with
  | 0 => none
  | fuel + 1 =>
    let users := cs.takeWhile "ugoa".toList.contains
    match cs.drop users.length with
    | [] => none
    | operator :: rest =>
      if !"=+-".toList.contains operator then none
      else
        match operations cs.length.succ (usersOf users) (operator :: rest) with
        | none => none
        | some (found, []) => some found
        | some (found, ',' :: rest) => (clauses fuel rest).map (found ++ ·)
        | some _ => none

/-- The changes that a text asks for. -/
def ofText? (cs : Octets) : Option (List ModeChange) :=
  if cs.head?.any Digits.isOctal then
    let n := Digits.valueIn 8 cs
    if cs.all Digits.isOctal && n ≤ all then
      some [⟨'=', .letters, all, n, if cs.length < 5 then (n &&& 0o6000) ||| 0o1777 else all⟩]
    else none
  else clauses cs.length.succ cs

/-- The permissions after some changes. -/
def applyAll (changes : List ModeChange) (isDir : Bool) (mask mode : Nat) : Nat :=
  changes.foldl (apply isDir mask) mode

end ModeChange

/-- Permissions in letters. -/
def modeLetters (mode : Nat) : Octets :=
  let bit (n : Nat) (c : Char) : Char := if ModeChange.meets mode n then c else '-'
  let run (n special : Nat) (with_ without : Char) : Char :=
    if ModeChange.meets mode special then (if ModeChange.meets mode n then with_ else without) else bit n 'x'
  [bit 0o400 'r', bit 0o200 'w', run 0o100 0o4000 's' 'S', bit 0o040 'r', bit 0o020 'w', run 0o010 0o2000 's' 'S',
    bit 0o004 'r', bit 0o002 'w', run 0o001 0o1000 't' 'T']

/-- Permissions in octal digits, four of them at least. -/
def modeDigits (mode : Nat) : Octets :=
  let digits := Nat.toDigits 8 mode
  List.replicate (4 - digits.length) '0' ++ digits

end ProtoTree.Shell.Utility
