import ProtoTree.Shell.Builtin.Basic
import ProtoTree.Shell.Expansion

/-! # Variables, options and arguments

The commands that change what a script knows: its variables and what they are
marked as, its options, its arguments, and what it reads into variables.
-/

namespace ProtoTree.Shell

open Text (Bytes Octets)

namespace State

open Builtin

/-! ## Variables -/

/-- The variables of a kind, in order, as the commands that make them. -/
def listed (s : State) (command : String) (wanted : Variable → Bool) : Octets :=
  let chosen := s.bindings.filter fun b => wanted b.2
  (chosen.mergeSort fun a b => !decide (b.1 < a.1)).flatMap fun (name, v) =>
    command.toList ++ (if command.isEmpty then [] else [' ']) ++ name
      ++ (v.value.elim [] fun value => '=' :: singleQuoted value) ++ ['\n']

/-- Marks variables, which may be given values, or lists those that are marked. -/
def declare (s : State) (command : String) (wanted : Variable → Bool) (mark : Variable → Variable)
    (args : List Octets) : State :=
  s.withOptions "p" args fun flags names =>
    if !flags.isEmpty || names.isEmpty then s.print (s.listed command wanted)
    else
      names.foldl (fun s arg =>
        let (name, value) := splitAssignment arg
        if !s.goesOn then s
        else
          match value with
          | some value =>
            let s := s.assign name value
            if s.goesOn then remark mark s name else s
          | none =>
            if (s.binding? name).isSome || Name.isName name then remark mark s name
            else s.abort s!"{String.ofList name}: bad variable name") (s.withStatus 0)

/-- Lets programs see variables. -/
def declareExported (s : State) (args : List Octets) : State :=
  s.declare "export" (·.exported) (fun v => { v with exported := true }) args

/-- Lets variables keep their values. -/
def declareFixed (s : State) (args : List Octets) : State :=
  s.declare "readonly" (·.fixed) (fun v => { v with fixed := true }) args

/-- Gives a function variables of its own, or options for `-`. -/
def declareLocal (s : State) (args : List Octets) : State :=
  match s.frames with
  | [] => s.abort "not in a function"
  | _ =>
    args.foldl (fun s arg =>
      if !s.goesOn then s
      else if arg = ['-'] then
        match s.frames with
        | frame :: rest => { s with frames := (.options s.options :: frame) :: rest }
        | [] => s
      else
        let (name, value) := splitAssignment arg
        s.keepLocal name value false) (s.withStatus 0)

/-- Takes variables or functions away. -/
def unset (s : State) (args : List Octets) : State :=
  s.withOptions "vf" args fun flags names =>
    if (flags.getLast?.map (·.1)) = some 'f' then
      { s with functions := s.functions.filter fun f => !names.contains f.1, status := 0 }
    else names.foldl (fun s name => if s.goesOn then s.unsetVariable name else s) (s.withStatus 0)

/-! ## Options and arguments -/

/-- The letters of the options that have names; those that have none are told apart by other characters. -/
def namedOptions : List (String × Char) :=
  [("errexit", 'e'), ("noglob", 'f'), ("ignoreeof", 'I'), ("interactive", 'i'), ("monitor", 'm'),
    ("noexec", 'n'), ("stdin", 's'), ("xtrace", 'x'), ("verbose", 'v'), ("vi", 'V'), ("emacs", 'E'),
    ("noclobber", 'C'), ("allexport", 'a'), ("notify", 'b'), ("nounset", 'u'), ("privileged", 'p'),
    ("nolog", '\x01'), ("debug", '\x02')]

/-- Which options are on, each on a line. -/
def shownOptions (s : State) (asCommands : Bool) : Octets :=
  let shown (name : String) (letter : Char) : String :=
    let on := s.options.contains letter
    if asCommands then "set " ++ (if on then "-o " else "+o ") ++ name ++ "\n"
    else name ++ String.ofList (List.replicate (16 - name.length) ' ') ++ (if on then "on\n" else "off\n")
  let lines := namedOptions.map fun (name, letter) => shown name letter
  (String.join ((if asCommands then [] else ["Current option settings\n"]) ++ lines)).toList

/-- What the letters of an argument do; after `o` comes a name, which is given apart. The second result is what they
    print, the third one tells whether the name was used. -/
def takeLetters (s : State) (on : Bool) (name : Option Octets) (letters : Octets) :
    Except String (State × Octets × Bool) :=
  let sign := if on then "-" else "+"
  letters.foldlM (fun (s, shown, used) letter =>
    if letter == 'o' then
      match if used then none else name with
      | none => .ok (s, shown ++ s.shownOptions (!on), used)
      | some name =>
        match namedOptions.lookup (String.ofList name) with
        | some letter => .ok (s.putOption letter on, shown, true)
        | none => .error s!"Illegal option {sign}o {String.ofList name}"
    else if optionOrder.contains letter then
      let s := if on && letter == 'V' then s.putOption 'E' false
        else if on && letter == 'E' then s.putOption 'V' false
        else s
      .ok (s.putOption letter on, shown, used)
    else .error s!"Illegal option {sign}{String.ofList [letter]}") (s, [], false)

/-- Gives the script other arguments. -/
def putArgs (s : State) (args : List Octets) : State := { s with args, choosing := {} }

/-- Sets options up to the first argument that is none, and what is behind them if there is something to be set.
    The second result is what is printed on the way. -/
def takeSettings (fuel : Nat) (s : State) (args : List Octets) : Except String (State × Octets) :=
  match fuel, args with
  | 0, _ | _, [] => .ok (s, [])
  | fuel + 1, arg :: rest =>
    match arg with
    | ['-'] =>
      let s := (s.putOption 'x' false).putOption 'v' false
      .ok (if rest.isEmpty then s else s.putArgs rest, [])
    | ['-', '-'] => .ok (s.putArgs rest, [])
    | sign :: letters =>
      if sign ≠ '-' && sign ≠ '+' then .ok (s.putArgs args, [])
      else do
        let (s, shown, used) ← s.takeLetters (sign == '-') rest.head? letters
        let (s, more) ← s.takeSettings fuel (if used then rest.tail else rest)
        return (s, shown ++ more)
    | [] => .ok (s.putArgs args, [])

/-- Sets options and arguments, or lists the variables. -/
def set (s : State) (args : List Octets) : State :=
  if args.isEmpty then s.print (s.listed "" (·.value.isSome))
  else
    match s.takeSettings args.length.succ args with
    | .error reason => s.abort reason
    | .ok (done, shown) =>
      if done.options.contains 'm' && !s.options.contains 'm' then
        ((done.putOption 'm' false).complain "can't access tty; job control turned off").withStatus 0
      else done.print shown

/-- Drops arguments. -/
def shift (s : State) (args : List Octets) : State :=
  s.withCount args 1 fun n =>
    if s.args.length < n then s.abort "can't shift that many"
    else (s.putArgs (s.args.drop n)).withStatus 0

/-! ## Choosing options one by one -/

/-- What `getopts` has found. -/
structure Chosen where
  letter : Char := '?'
  value : Option Octets := none
  /-- What is said about it. -/
  message : String := ""
  choosing : Choosing
  done : Bool := false

/-- The next option among some arguments. -/
def nextOption (known : Octets) (args : List Octets) (c : Choosing) : Chosen :=
  let argAt (n : Nat) : Octets := (args[n - 1]?).getD []
  let inside : Octets :=
    match c.offset with
    | some offset => if 1 < c.index then (argAt (c.index - 1)).drop offset else []
    | none => []
  let begun : Option (Nat × Octets) ⊕ Nat :=
    if !inside.isEmpty then .inl (some (c.index, inside))
    else
      match args[c.index - 1]? with
      | some ['-', '-'] => .inr (c.index + 1)
      | some ('-' :: l :: letters) => .inl (some (c.index + 1, l :: letters))
      | _ => .inr c.index
  let quiet := known.head? = some ':'
  match begun with
  | .inr index => { choosing := ⟨index, none⟩, done := true }
  | .inl none | .inl (some (_, [])) => { choosing := ⟨c.index, none⟩, done := true }
  | .inl (some (index, letter :: rest)) =>
    let here : Choosing := ⟨index, some ((argAt (index - 1)).length - rest.length)⟩
    match letterKind? letter known with
    | none =>
      if quiet then { value := some [letter], choosing := here }
      else { message := s!"Illegal option -{String.ofList [letter]}\n", choosing := here }
    | some false => { letter, value := some [], choosing := here }
    | some true =>
      if !rest.isEmpty then { letter, value := some rest, choosing := ⟨index, none⟩ }
      else
        match args[index - 1]? with
        | some value => { letter, value := some value, choosing := ⟨index + 1, none⟩ }
        | none =>
          if quiet then { letter := ':', value := some [letter], choosing := ⟨index, none⟩ }
          else { message := s!"No arg for -{String.ofList [letter]} option\n", choosing := ⟨index, none⟩ }

/-- Gives variables the next option of the arguments, its value, and the number of the next argument. -/
def chooseOption (s : State) (args : List Octets) : State :=
  s.withOptions "" args fun _ words =>
    match words with
    | known :: name :: own =>
      let from_ := if own.isEmpty then s.args else own
      let isOver := s.choosing.index = 0 || from_.length + 1 < s.choosing.index
      let found := nextOption known from_ (if isOver then {} else s.choosing)
      let s := { s with choosing := ⟨0, none⟩ }.mention found.message.toList
      let s := if found.done then s
        else
          match found.value with
          | some value => s.assign "OPTARG".toList value
          | none => s.unsetVariable "OPTARG".toList
      let s := if !s.goesOn then s
        else if s.isFixed "OPTIND".toList then s.abort "OPTIND: is read only"
        else s.setVariable "OPTIND".toList (Digits.ofNat found.choosing.index)
      let s := if s.goesOn then s.assign name [found.letter] else s
      if s.goesOn then { s with choosing := found.choosing, status := if found.done then 1 else 0 } else s
    | _ => s.abort "Usage: getopts optstring var [arg...]"

/-! ## Reading -/

/-- What of the input a line is, as parts that are split and characters that are protected by a backslash; what is
    left to read, and whether the line has an end. A backslash joins lines. Zero bytes are passed over. -/
def takeLine (raw : Bool) (fuel : Nat) (spans : List Span) (current : List Glyph) (bytes : Bytes) :
    List Span × Bytes × Bool :=
  let all : List Span := (⟨.split, current.reverse⟩ :: spans).reverse
  match fuel, bytes with
  | 0, _ | _, [] => (all, [], false)
  | fuel + 1, b :: rest =>
    let c := Char.ofNat b.toNat
    if b = 0 then takeLine raw fuel spans current rest
    else if c == '\n' then (all, rest, true)
    else if c == '\\' && !raw then
      match rest.dropWhile (· = 0) with
      | [] => (all, [], false)
      | e :: rest =>
        let before : List Span := ⟨.split, current.reverse⟩ :: spans
        if e = 10 then takeLine raw fuel before [] rest
        else takeLine raw fuel (⟨.kept, [.quoted (Char.ofNat e.toNat)]⟩ :: before) [] rest
    else takeLine raw fuel spans (.plain c :: current) rest

/-- Reads a line into variables; the last one gets all that is left. -/
def readLine (s : State) (args : List Octets) : State :=
  s.withOptions "p:r" args fun flags names =>
    if names.isEmpty then s.abort "arg count"
    else
      let bytes := (s.unread 0).getD []
      let (spans, rest, ended) := takeLine (flags.any (·.1 == 'r')) bytes.length.succ [] [] bytes
      let s := s.leaveUnread 0 rest
      let fields := (Span.fields s.separators (some names.length) spans).map Glyph.text
      let s := names.zipIdx.foldl (fun s (name, i) =>
        if s.goesOn then s.assign name ((fields[i]?).getD []) else s) s
      if s.goesOn then s.withStatus (if ended then 0 else 1) else s

end State

end ProtoTree.Shell
