import ProtoTree.Shell.Utility.Listing
import ProtoTree.Shell.Utility.Running

/-! # The system

Utilities that let time pass, or tell the time, who runs a script, on what
machine, and with what environment.
-/

namespace ProtoTree.Shell.Utility

open Text (Octets)

/-- Goes on for a program without operands. -/
def withoutOperands (s : State) (status : Nat) (forms : List OptionForm) (args : List Octets)
    (act : Asked → State) : State :=
  withArgs s status forms args fun a =>
    match a.operands with
    | [] => act a
    | extra :: _ => misused s s!"extra operand {cited extra}" status

/-- Prints a line and succeeds. -/
def putLine (s : State) (line : Octets) : State := put (s.withStatus 0) (line ++ ['\n'])

/-! ## Time -/

/-- Lets time pass. -/
def sleep (s : State) (args : List Octets) : State :=
  withArgs s 1 [] args fun a =>
    if a.operands.isEmpty then misused s "missing operand"
    else
      let bad := a.operands.filter fun text => (duration? text).isNone
      if !bad.isEmpty then
        hint (bad.foldl (fun s text => tell s s!"invalid time interval {cited text}") s) 1
      else
        let times := a.operands.filterMap duration?
        let s := s.withStatus 0
        if times.contains none then s.withFlow .endless
        else s.waitUntil (some (s.world.time + times.foldl (fun n time => n + time.getD 0) 0))

/-- Prints the time of now or another one. -/
def date (s : State) (args : List Octets) : State :=
  let forms : List OptionForm :=
    [.valued 'd' "date", ⟨['u'], ["utc", "universal", "uct"], .without⟩, ⟨['R'], ["rfc-email", "rfc-822"], .without⟩,
      ⟨['I'], ["iso-8601"], .maybe⟩, .long "rfc-3339" .withValue, .valued 'r' "reference", .valued 's' "set"]
  withArgs s 1 forms args fun a =>
    let given : Except String Int :=
      match a.value? "r", a.value? "d" with
      | some file, _ =>
        match s.entryOf? file true with
        | .ok n => .ok (s.stampOf n)
        | .error e => .error (plainRefusal file e)
      | none, some text =>
        if text.isEmpty then .ok (s.clock / 86400000000000 * 86400000000000)
        else if text = "now".toList then .ok s.clock
        else
          match stampOfDate? text with
          | some stamp => .ok stamp
          | none => .error s!"invalid date {cited text}"
      | none, none => .ok s.clock
    let standard (separator : Char) (detail : String) : String :=
      match detail with
      | "hours" => "%Y-%m-%dT%H+00:00"
      | "minutes" => "%Y-%m-%dT%H:%M+00:00"
      | "ns" => if separator == 'T' then "%Y-%m-%dT%H:%M:%S,%N+00:00" else "%Y-%m-%d %H:%M:%S.%N+00:00"
      | "seconds" => if separator == 'T' then "%Y-%m-%dT%H:%M:%S+00:00" else "%Y-%m-%d %H:%M:%S+00:00"
      | _ => "%Y-%m-%d"
    match given, a.operands with
    | .error text, _ => failed s 1 text
    | .ok stamp, [] =>
      let format :=
        match a.last? ["R", "I", "rfc-3339"] with
        | some "R" => "%a, %d %b %Y %H:%M:%S +0000"
        | some "I" => standard 'T' (String.ofList ((a.value? "I").getD []))
        | some _ => standard ' ' (String.ofList ((a.value? "rfc-3339").getD []))
        | none => "%a %b %e %H:%M:%S UTC %Y"
      putLine s (Date.shown stamp format.toList)
    | .ok stamp, ['+' :: format] => putLine s (Date.shown stamp format)
    | .ok _, ('+' :: _) :: extra :: _ => misused s s!"extra operand {cited extra}"
    | .ok _, text :: _ => failed s 1 s!"invalid date {cited text}"

/-! ## Users -/

/-- The users that are known, with their numbers. -/
def users : List (String × Nat) := [("root", 0), ("daemon", 1), ("bin", 2), ("nobody", 65534)]

/-- The group of a user. -/
def groupOf (user : String) : String := if user = "nobody" then "nogroup" else user

/-- The user that a name or a number stands for. -/
def user? (text : Octets) : Option (String × Nat) :=
  users.find? fun (name, number) => name.toList = text || Digits.ofNat number = text

/-- Tells who runs the script, or who a user is. -/
def id (s : State) (args : List Octets) : State :=
  let forms : List OptionForm :=
    [.plain 'a' "", .plain 'g' "group", .plain 'G' "groups", .plain 'n' "name", .plain 'r' "real", .plain 'u' "user",
      .plain 'z' "zero", .plain 'Z' "context"]
  withArgs s 1 forms args fun a =>
    let kinds := ["g", "G", "u", "Z"].filter a.has
    if a.has "Z" then failed s 1 "--context (-Z) works only on an SELinux-enabled kernel"
    else if 1 < kinds.length then failed s 1 "cannot print \"only\" of more than one choice"
    else if kinds.isEmpty && (a.has "n" || a.has "r") then
      failed s 1 "cannot print only names or real IDs in default format"
    else if kinds.isEmpty && a.has "z" then failed s 1 "option --zero not permitted in default format"
    else
      let asked := if a.operands.isEmpty then ["root".toList] else a.operands
      asked.foldl (fun s text =>
        match user? text with
        | none => failed s 1 s!"{quoted text}: no such user"
        | some (name, number) =>
          let group := groupOf name
          let line :=
            if kinds.isEmpty then
              s!"uid={number}({name}) gid={number}({group}) groups={number}({group})"
            else if a.has "n" then if kinds = ["u"] then name else group
            else toString number
          put s (line.toList ++ [if a.has "z" then '\x00' else '\n'])) (s.withStatus 0)

/-- Prints the name of who runs the script. -/
def whoami (s : State) (args : List Octets) : State :=
  withoutOperands s 1 [] args fun _ => putLine s "root".toList

/-- Prints the groups of users. -/
def groups (s : State) (args : List Octets) : State :=
  withArgs s 1 [] args fun a =>
    if a.operands.isEmpty then putLine s "root".toList
    else
      a.operands.foldl (fun s text =>
        match user? text with
        | none => failed s 1 s!"{quoted text}: no such user"
        | some (name, _) => put s s!"{name} : {groupOf name}\n".toList) (s.withStatus 0)

/-- Fails to tell who has logged in. -/
def logname (s : State) (args : List Octets) : State :=
  withoutOperands s 1 [] args fun _ => failed s 1 "no login name"

/-! ## The machine -/

/-- The facts about the system, each with the letter that asks for it, in the order in which they are shown. -/
def systemFacts : List (String × String) :=
  [("s", "Linux"), ("n", "localhost"), ("r", "6.1.0"), ("v", "#1 SMP"), ("m", "x86_64"), ("p", "x86_64"),
    ("i", "x86_64"), ("o", "GNU/Linux")]

/-- Prints facts about the system. -/
def uname (s : State) (args : List Octets) : State :=
  let forms : List OptionForm :=
    [.plain 'a' "all", ⟨['s'], ["kernel-name", "sysname"], .without⟩, .plain 'n' "nodename",
      ⟨['r'], ["kernel-release", "release"], .without⟩, .plain 'v' "kernel-version", .plain 'm' "machine",
      .plain 'p' "processor", .plain 'i' "hardware-platform", .plain 'o' "operating-system"]
  withoutOperands s 1 forms args fun a =>
    let wanted := systemFacts.filter fun (letter, _) =>
      a.has "a" || a.has letter || (a.flags.isEmpty && letter = "s")
    putLine s ([' '].intercalate (wanted.map (·.2.toList)))

/-- Prints the name of the machine's kind. -/
def arch (s : State) (args : List Octets) : State :=
  withoutOperands s 1 [] args fun _ => putLine s "x86_64".toList

/-- Prints how many processors there are. -/
def nproc (s : State) (args : List Octets) : State :=
  let forms : List OptionForm := [.long "all" .without, .long "ignore" .withValue]
  withoutOperands s 1 forms args fun a =>
    match (a.value? "ignore").filter (!Digits.isNumber ·) with
    | some bad => failed s 1 s!"invalid number: {cited bad}"
    | none => putLine s (Digits.ofNat (max 1 (4 - Digits.value ((a.value? "ignore").getD ['0']))))

/-- Tells that the input is no terminal. -/
def tty (s : State) (args : List Octets) : State :=
  withoutOperands s 2 [⟨['s'], ["silent", "quiet"], .without⟩] args fun a =>
    if a.has "s" then s.withStatus 1 else (putLine s "not a tty".toList).withStatus 1

/-- Has nothing to write out. -/
def sync (s : State) (args : List Octets) : State :=
  withArgs s 1 [.plain 'd' "data", .plain 'f' "file-system"] args fun a =>
    a.operands.foldl (fun s file =>
      match s.entryOf? file true with
      | .ok _ => s
      | .error e => failed s 1 s!"error opening {quoted file}: {e.wording}") (s.withStatus 0)

/-! ## The environment -/

/-- Prints variables of the environment. -/
def printenv (s : State) (args : List Octets) : State :=
  withLeadingArgs s 2 [.plain '0' "null"] args fun a =>
    let ending := if a.has "0" then '\x00' else '\n'
    let value? (name : Octets) : Option Octets := if name.contains '=' then none else s.valueOf? name
    if a.operands.isEmpty then
      put (s.withStatus 0) (s.bindings.flatMap fun (name, v) => name ++ '=' :: v.value.getD [] ++ [ending])
    else
      put (s.withStatus (if a.operands.all fun name => (value? name).isSome then 0 else 1))
        (a.operands.flatMap fun name => (value? name).elim [] (· ++ [ending]))

/-! ## Numbers -/

/-- The prime factors of a number from some candidate on. -/
def factorsFrom (fuel n candidate : Nat) : List Nat :=
  match fuel with
  | 0 => if n ≤ 1 then [] else [n]
  | fuel + 1 =>
    if n ≤ 1 then []
    else if n < candidate * candidate then [n]
    else if n % candidate = 0 then candidate :: factorsFrom fuel (n / candidate) candidate
    else factorsFrom fuel n (candidate + 1)

/-- Prints the prime factors of numbers, which are arguments or words of the input. -/
def factor (s : State) (args : List Octets) : State :=
  withArgs s 1 [.plain 'h' "exponents"] args fun a =>
    let (words, s) :=
      if a.operands.isEmpty then
        let (bytes, s) := s.takeInput
        (((Octets.ofBytes bytes).splitBy fun x y => isBlank x == isBlank y).filter fun w => !w.any isBlank, s)
      else (a.operands, s)
    words.foldl (fun s word =>
      let digits := word.dropWhile (· == ' ')
      let digits := if digits.head? = some '+' then digits.tail else digits
      if Digits.isNumber digits then
        let n := Digits.value digits
        put s (Digits.ofNat n ++ ':' :: (factorsFrom (n + 2) n 2).flatMap (fun p => ' ' :: Digits.ofNat p) ++ ['\n'])
      else failed s 1 s!"{quoted word} is not a valid positive integer") (s.withStatus 0)

end ProtoTree.Shell.Utility
