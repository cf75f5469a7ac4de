import ProtoTree.Shell.Redirect

/-! # What utilities have in common

Messages, options, and the files that are read. Options may stand among the
operands; long ones may be shortened as long as it is clear which one is meant.
-/

namespace ProtoTree.Shell.Utility

open Text (Bytes Octets)

/-! ## Messages and printing -/

/-- Writes a message of a program. -/
def tell (s : State) (text : String) : State := s.mention (s.name ++ s!": {text}\n".toList)

/-- Fails with a message of a program. -/
def failed (s : State) (status : Nat) (text : String) : State := (tell s text).withStatus status

/-- Says where to read how a program is to be called. -/
def hint (s : State) (status : Nat) : State :=
  (s.mention ("Try '".toList ++ s.name ++ " --help' for more information.\n".toList)).withStatus status

/-- Says what is wrong with how a program was called. -/
def misused (s : State) (text : String) (status : Nat := 1) : State := hint (tell s text) status

/-- Prints bytes; a closed output takes none. -/
def putBytes (s : State) (bytes : Bytes) : State :=
  if bytes.isEmpty then s
  else
    match s.write 1 bytes with
    | some s => s
    | none =>
      if s.descriptors.lookup 1 = some .full then failed s 1 "write error: No space left on device"
      else failed s 1 "write error: Bad file descriptor"

/-- Prints text. -/
def put (s : State) (text : Octets) : State := putBytes s (Octets.toBytes text)

/-- Whether a character can be seen. -/
def isVisible (c : Char) : Bool := ' ' ≤ c && c ≤ '~'

/-- A character that cannot be seen, behind a backslash. -/
def escaped (c : Char) : Octets :=
  match (['\x07', '\x08', '\t', '\n', '\x0b', '\x0c', '\r'].zip "abtnvfr".toList).lookup c with
  | some letter => ['\\', letter]
  | none =>
    let digits := Nat.toDigits 8 c.toNat
    '\\' :: List.replicate (3 - digits.length) '0' ++ digits

/-- Text in single quotes, out of which quotes and what cannot be seen are taken. -/
def singlyQuoted (text : Octets) : Octets :=
  let (shown, _) := text.foldl (fun (shown, inEscape) c =>
    if !isVisible c then (shown ++ (if inEscape then [] else "'$'".toList) ++ escaped c, true)
    else
      let shown := if inEscape then shown ++ "''".toList else shown
      (shown ++ if c == '\'' then "'\\''".toList else [c], false)) (['\''], false)
  shown ++ ['\'']

/-- A name in quotes as the shell would need them. -/
def quoted (text : Octets) : String :=
  let fitsDouble := text.all fun c => c.isAlphanum || " '%+,-./:]_#~\x7b\x7d".toList.contains c
  if text.contains '\'' && fitsDouble then "\"" ++ String.ofList text ++ "\""
  else String.ofList (singlyQuoted text)

/-- A name as messages show it: in quotes only where the shell would need them. -/
def shownName (text : Octets) : String :=
  let isSpecial (c : Char) : Bool := " !\"$&()*;<=>[^|'?\\\x60".toList.contains c || !isVisible c
  let starts := text.head?.any fun c => c == '#' || c == '~'
  if text.isEmpty || text.any isSpecial || starts || text = ['{'] || text = ['}'] then quoted text
  else String.ofList text

/-- A text in quotes with what cannot be seen behind backslashes. -/
def cited (text : Octets) : String :=
  let pieces := text.flatMap fun c =>
    if c == '\'' || c == '\\' then ['\\', c] else if isVisible c then [c] else escaped c
  "'" ++ String.ofList pieces ++ "'"

/-! ## Options -/

/-- Whether an option takes a value. -/
inductive ValueKind where
  | without
  | withValue
  /-- A value that has to be written together with the option. -/
  | maybe
  deriving DecidableEq, Repr, Inhabited

/-- An option: the letters and words that it may be given by; it is known by the first one. -/
structure OptionForm where
  letters : List Char
  words : List String
  value : ValueKind
  deriving Repr, Inhabited

namespace OptionForm

/-- What an option is known by. -/
def key (o : OptionForm) : String :=
  match o.letters, o.words with
  | c :: _, _ => String.ofList [c]
  | [], first :: _ => first
  | [], [] => ""

/-- Options without values, each given by a letter and perhaps by a word as well. -/
def plain (letter : Char) (word : String) : OptionForm := ⟨[letter], if word = "" then [] else [word], .without⟩

def valued (letter : Char) (word : String) : OptionForm := ⟨[letter], if word = "" then [] else [word], .withValue⟩

def long (word : String) (value : ValueKind) : OptionForm := ⟨[], [word], value⟩

end OptionForm

/-- What is wrong with an option. -/
inductive OptionFault where
  | unknownLetter (c : Char)
  | letterWithoutValue (c : Char)
  | unknownWord (text : Octets)
  | wordWithoutValue (word : String)
  | unwantedValue (word : String)
  | ambiguous (text : Octets) (words : List String)
  deriving Repr, Inhabited

namespace OptionFault

def message : OptionFault → String
  | .unknownLetter c => s!"invalid option -- '{String.ofList [c]}'"
  | .letterWithoutValue c => s!"option requires an argument -- '{String.ofList [c]}'"
  | .unknownWord text => s!"unrecognized option '--{String.ofList text}'"
  | .wordWithoutValue word => s!"option '--{word}' requires an argument"
  | .unwantedValue word => s!"option '--{word}' doesn't allow an argument"
  | .ambiguous text words =>
    s!"option '--{String.ofList text}' is ambiguous; possibilities:"
      ++ String.join (words.map fun w => s!" '--{w}'")

end OptionFault

/-- What arguments ask for: options with their values, in order, and operands. -/
structure Asked where
  flags : List (String × Octets) := []
  operands : List Octets := []
  deriving Repr, Inhabited

namespace Asked

def has (a : Asked) (key : String) : Bool := a.flags.any fun f => f.1 = key

/-- The value that an option was given last. -/
def value? (a : Asked) (key : String) : Option Octets := a.flags.reverse.lookup key

/-- Which of some options was given last. -/
def last? (a : Asked) (keys : List String) : Option String :=
  (a.flags.reverse.find? fun f => keys.contains f.1).map (·.1)

/-- The files that are to be read; the input when none is named. -/
def files (a : Asked) : List Octets := if a.operands.isEmpty then [['-']] else a.operands

def addFlag (a : Asked) (key : String) (value : Octets) : Asked := { a with flags := (key, value) :: a.flags }

def addOperand (a : Asked) (arg : Octets) : Asked := { a with operands := arg :: a.operands }

end Asked

/-- The option that a word stands for: itself, or the only one that it starts. -/
def formOfWord (forms : List OptionForm) (name : Octets) : Except OptionFault (OptionForm × String) :=
  let text := String.ofList name
  let all := forms.flatMap fun o => o.words.map fun word => (o, word)
  match all.find? fun (_, word) => word = text with
  | some found => .ok found
  | none =>
    match all.filter fun (_, word) => name.isPrefixOf word.toList with
    | [] => .error (.unknownWord name)
    | (o, word) :: more =>
      if more.all fun (other, _) => other.key = o.key then .ok (o, word)
      else .error (.ambiguous name (((o, word) :: more).map (·.2)))

/-- Takes options and operands apart, both in reverse. With `permutes`, options may stand behind operands. -/
def takeArgs (forms : List OptionForm) (permutes : Bool) (a : Asked) : List Octets → Except OptionFault Asked
  | [] => .ok a
  | arg :: rest =>
    match arg with
    | ['-', '-'] => .ok { a with operands := rest.reverse ++ a.operands }
    | '-' :: '-' :: text => do
      let name := text.takeWhile (· != '=')
      let value := if name.length < text.length then some (text.drop (name.length + 1)) else none
      let (o, word) ← match formOfWord forms name with
        | .ok found => .ok found
        | .error (.unknownWord _) => .error (.unknownWord text)
        | .error fault => .error fault
      match o.value, value with
      | .without, some _ => throw (.unwantedValue word)
      | .without, none | .maybe, none => takeArgs forms permutes (a.addFlag o.key []) rest
      | _, some value => takeArgs forms permutes (a.addFlag o.key value) rest
      | .withValue, none =>
        match rest with
        | value :: rest => takeArgs forms permutes (a.addFlag o.key value) rest
        | [] => throw (.wordWithoutValue word)
    | '-' :: c :: letters => cluster a rest (c :: letters)
    | arg =>
      if permutes then takeArgs forms permutes (a.addOperand arg) rest
      else .ok { a with operands := rest.reverse ++ arg :: a.operands }
where
  /-- The options that the letters of one argument are, and what is behind it. -/
  cluster (a : Asked) (rest : List Octets) : Octets → Except OptionFault Asked
    | [] => takeArgs forms permutes a rest
    | c :: letters =>
      match forms.find? fun o => o.letters.contains c with
      | none => .error (.unknownLetter c)
      | some o =>
        match o.value with
        | .without => cluster (a.addFlag o.key []) rest letters
        | .maybe => takeArgs forms permutes (a.addFlag o.key letters) rest
        | .withValue =>
          if !letters.isEmpty then takeArgs forms permutes (a.addFlag o.key letters) rest
          else
            match rest with
            | value :: rest => takeArgs forms permutes (a.addFlag o.key value) rest
            | [] => .error (.letterWithoutValue c)

/-- What arguments ask for. -/
def Asked.ofArgs (forms : List OptionForm) (permutes : Bool) (args : List Octets) : Except OptionFault Asked :=
  (takeArgs forms permutes {} args).map fun a => ⟨a.flags.reverse, a.operands.reverse⟩

/-- Goes on with what the arguments of a program ask for, unless there is something wrong with an option. -/
def withArgs (s : State) (status : Nat) (forms : List OptionForm) (args : List Octets)
    (act : Asked → State) : State :=
  match Asked.ofArgs forms true args with
  | .ok a => act a
  | .error fault => misused s fault.message status

/-- The same for programs whose options stand in front of the operands. -/
def withLeadingArgs (s : State) (status : Nat) (forms : List OptionForm) (args : List Octets)
    (act : Asked → State) : State :=
  match Asked.ofArgs forms false args with
  | .ok a => act a
  | .error fault => misused s fault.message status

/-! ## Reading -/

/-- The content of a file, or what is left of the input. What has no end is read up to a limit. -/
def contentOf (s : State) (limit : Nat) (file : Octets) : Except SystemError (Bytes × State) :=
  if file = ['-'] then
    match s.descriptors.lookup 0 with
    | some .zeros => .ok (List.replicate limit 0, s)
    | some (.file k) =>
      match (s.world.openFiles[k]?).map fun f => s.disk.entryAt f.entry with
      | some .directory => .error .isDirectory
      | _ => (s.unread 0).elim (.error (.number 9)) fun bytes => .ok (bytes, s.leaveUnread 0 [])
    | none => .error (.number 9)
    | _ => (s.unread 0).elim (.error (.number 9)) fun bytes => .ok (bytes, s.leaveUnread 0 [])
  else
    match State.descriptorOfPath? file, s.statOf? file with
    | some descriptor, _ => ofDescriptor s descriptor
    | none, .error e => .error e
    | none, .ok (.device "stdin") => ofInput s
    | none, .ok (.device "zero") => .ok (List.replicate limit 0, s)
    | none, .ok (.device "full") => .ok (List.replicate limit 0, s)
    | none, .ok .directory => .error .isDirectory
    | none, .ok (.file bytes) => .ok (bytes, s)
    | none, .ok _ => .ok ([], s)
where
  /-- What a descriptor leads to, opened again. -/
  ofDescriptor (s : State) (descriptor : Nat) : Except SystemError (Bytes × State) :=
    match s.descriptors.lookup descriptor with
    | none => .error .notFound
    | some (.file k) =>
      match (s.world.openFiles[k]?).map fun f => s.disk.entryAt f.entry with
      | some (.file bytes) => .ok (bytes, s)
      | _ => .error .isDirectory
    | some _ => (s.unread descriptor).elim (.ok ([], s)) fun bytes => .ok (bytes, s.leaveUnread descriptor [])
  /-- What is left of the input. -/
  ofInput (s : State) : Except SystemError (Bytes × State) :=
    (s.unread 0).elim (.error (.number 9)) fun bytes => .ok (bytes, s.leaveUnread 0 [])

/-- What most programs say about a file that cannot be read. -/
def plainRefusal (file : Octets) (e : SystemError) : String := s!"{shownName file}: {e.wording}"

/-- Goes through files. One that cannot be read is told about and makes the status 1. -/
def overFiles (s : State) (files : List Octets) (refusal : Octets → SystemError → String)
    (act : State → Octets → Bytes → State) : State :=
  files.foldl (fun s file =>
    match contentOf s 0 file with
    | .ok (bytes, s) => act s file bytes
    | .error e => failed s 1 (refusal file e)) (s.withStatus 0)

/-- All that files hold, one after another. -/
def allOf (s : State) (a : Asked) : Bytes × State :=
  a.files.foldl (fun (before, s) file =>
    match contentOf s 0 file with
    | .ok (bytes, s) => (before ++ bytes, s)
    | .error e => (before, failed s 1 (plainRefusal file e))) ([], s.withStatus 0)

/-- The lines of some text, each with its end. -/
def linesEnded (ending : Char) (text : Octets) : List Octets :=
  (text.foldr (fun c lines =>
    if c == ending then [c] :: lines
    else match lines with
      | line :: rest => if line.isEmpty then [c] :: rest else (c :: line) :: rest
      | [] => [[c]]) [[]]).filter fun line => !line.isEmpty

/-- The lines of some text, each with its end. -/
def linesOf (text : Octets) : List Octets := linesEnded '\n' text

/-- A line without its end. -/
def bare (line : Octets) : Octets := if line.getLast? = some '\n' then line.dropLast else line

/-- Lines with an end for each. -/
def joinLines (lines : List Octets) : Octets := lines.flatMap (· ++ ['\n'])

end ProtoTree.Shell.Utility
