import ProtoTree.Shell.State

/-! # Conditions

What `test` and `[` find out about files, texts and numbers.
-/

namespace ProtoTree.Shell.Condition

open Text (Octets)

/-- The operators with a value behind them. -/
def unaries : List String :=
  ["-r", "-w", "-x", "-e", "-f", "-d", "-c", "-b", "-p", "-u", "-g", "-k", "-s", "-t", "-z", "-n",
    "-h", "-L", "-O", "-G", "-S"]

/-- The operators between two values. -/
def binaries : List String :=
  ["=", "!=", "<", ">", "-eq", "-ne", "-ge", "-gt", "-le", "-lt", "-nt", "-ot", "-ef"]

/-- What a word is in a condition. -/
inductive Role where
  | operand
  | unary (operator : String)
  | binary (operator : String)
  | negation
  | both
  | either
  | opening
  | closing
  deriving DecidableEq, Repr, Inhabited

namespace Role

/-- What a word is that is not looked at together with others. -/
def ofWord (cs : Octets) : Role :=
  let word := String.ofList cs
  if unaries.contains word then unary word
  else if binaries.contains word then binary word
  else match word with
    | "!" => negation
    | "-a" => both
    | "-o" => either
    | "(" => opening
    | ")" => closing
    | _ => operand

/-- Whether an operator in front of a value has none, so that it is a value itself. -/
def standsAlone : List Octets → Bool
  | [] => true
  | [_] => false
  | next :: _ =>
    match ofWord next with
    | binary _ => true
    | _ => false

/-- What the first of some words is; none when there are no words. -/
def first? : List Octets → Option Role
  | [] => none
  | word :: rest =>
    match ofWord word with
    | unary operator => some (if standsAlone rest then operand else unary operator)
    | opening => some (if rest.isEmpty then operand else opening)
    | role => some role

end Role

/-- What is wrong with a condition. -/
abbrev Fault := String

/-- The number that a text is, with blanks around it. -/
def number (cs : Octets) : Except Fault Int :=
  match (Arithmetic.readInt? cs).filter fun n => Arithmetic.clamp n = n with
  | some n => .ok n
  | none => .error s!"Illegal number: {String.ofList cs}"

/-- The truth of an operator with the name of a file behind it. -/
def fileHolds (s : State) (operator : String) (file : Octets) : Bool :=
  let followLast := operator ≠ "-h" && operator ≠ "-L"
  match s.entryOf? file followLast with
  | .error _ => false
  | .ok n =>
    let mode := s.disk.modeOf n
    match operator, s.disk.entryAt n with
    | "-f", entry => entry.isFile
    | "-d", .directory => true
    | "-c", .device _ => true
    | "-h", .link _ | "-L", .link _ => true
    | "-s", .file content => !content.isEmpty
    | "-s", .device _ => false
    | "-s", _ => true
    | "-x", .directory => true
    | "-x", _ => mode &&& 0o111 ≠ 0
    | "-u", _ => mode &&& 0o4000 ≠ 0
    | "-g", _ => mode &&& 0o2000 ≠ 0
    | "-k", _ => mode &&& 0o1000 ≠ 0
    | operator, _ => ["-e", "-r", "-w", "-O", "-G"].contains operator

/-- The truth of an operator with a value behind it. -/
def unaryHolds (s : State) (operator : String) (arg : Octets) : Except Fault Bool :=
  match operator with
  | "-n" => .ok (!arg.isEmpty)
  | "-z" => .ok arg.isEmpty
  | "-t" => do
    let _ ← number arg
    return false
  | operator => .ok (fileHolds s operator arg)

/-- The truth of an operator between two values. -/
def binaryHolds (s : State) (a : Octets) (operator : String) (b : Octets) : Except Fault Bool :=
  let stamps (holds : Int → Int → Bool) : Except Fault Bool :=
    .ok <| match s.entryOf? a true, s.entryOf? b true with
      | .ok m, .ok n => holds (s.stampOf m) (s.stampOf n)
      | _, _ => false
  let numbers (holds : Int → Int → Bool) : Except Fault Bool := do
    return holds (← number a) (← number b)
  match operator with
  | "=" => .ok (a == b)
  | "!=" => .ok (a != b)
  | "<" => .ok (decide (a < b))
  | ">" => .ok (decide (b < a))
  | "-eq" => numbers fun m n => m == n
  | "-ne" => numbers fun m n => m != n
  | "-lt" => numbers fun m n => m < n
  | "-le" => numbers fun m n => m ≤ n
  | "-gt" => numbers fun m n => m > n
  | "-ge" => numbers fun m n => m ≥ n
  | "-ef" =>
    .ok <| match s.entryOf? a true, s.entryOf? b true with
      | .ok m, .ok n => m == n
      | _, _ => false
  | "-nt" => stamps fun m n => m > n
  | "-ot" => stamps fun m n => m < n
  | _ => .ok false

/-- The truth of what was read, the last word of it, and the words after it. -/
abbrev Reading := Except Fault (Bool × Octets × List Octets)

mutual

/-- Conditions of which one has to hold. -/
def either (s : State) (fuel : Nat) (words : List Octets) : Reading :=
  match fuel with
  | 0 => .error "too many arguments"
  | fuel + 1 => do
    let (holds, last, rest) ← both s fuel words
    if Role.first? rest = some .either then
      let (more, last, rest) ← either s fuel rest.tail
      return (holds || more, last, rest)
    return (holds, last, rest)
termination_by structural fuel

/-- Conditions that all have to hold. -/
def both (s : State) (fuel : Nat) (words : List Octets) : Reading :=
  match fuel with
  | 0 => .error "too many arguments"
  | fuel + 1 => do
    let (holds, last, rest) ← negation s fuel words
    if Role.first? rest = some .both then
      let (more, last, rest) ← both s fuel rest.tail
      return (holds && more, last, rest)
    return (holds, last, rest)
termination_by structural fuel

/-- A condition, perhaps negated. -/
def negation (s : State) (fuel : Nat) (words : List Octets) : Reading :=
  match fuel with
  | 0 => .error "too many arguments"
  | fuel + 1 =>
    if Role.first? words = some .negation then do
      if words.tail.isEmpty then return (true, words.headD [], [])
      let (holds, last, rest) ← negation s fuel words.tail
      return (!holds, last, rest)
    else primary s fuel words
termination_by structural fuel

/-- A condition without any others. -/
def primary (s : State) (fuel : Nat) (words : List Octets) : Reading :=
  match fuel, words with
  | 0, _ => .error "too many arguments"
  | _, [] => .ok (false, [], [])
  | fuel + 1, word :: rest =>
    match Role.first? words with
    | some .opening => do
      if Role.first? rest = some .closing then return (false, rest.headD [], rest.tail)
      let (holds, _, rest) ← either s fuel rest
      if Role.first? rest = some .closing then return (holds, rest.headD [], rest.tail)
      throw "closing paren expected"
    | some (.unary operator) =>
      match rest with
      | [] => .error s!"{operator}: argument expected"
      | arg :: rest => do return (← unaryHolds s operator arg, arg, rest)
    | _ =>
      match rest with
      | next :: more =>
        match Role.first? rest with
        | some (.binary operator) =>
          match more with
          | [] => .error s!"{operator}: argument expected"
          | arg :: rest => do return (← binaryHolds s word operator arg, arg, rest)
        | _ => .ok (!word.isEmpty, word, next :: more)
      | [] => .ok (!word.isEmpty, word, [])
termination_by structural fuel

end

/-- The truth of some words, all of which have to be used up. -/
def whole (s : State) (reading : State → Nat → List Octets → Reading) (words : List Octets) :
    Except Fault Bool := do
  let (holds, last, rest) ← reading s (4 * words.length + 4) words
  unless rest.isEmpty do throw s!"{String.ofList last}: unexpected operator"
  return holds

/-- The truth of some words. Few of them mean the same whatever they are. -/
def holds? (s : State) (words : List Octets) : Except Fault Bool :=
  let isBinary (word : Octets) : Bool := match Role.ofWord word with
    | .binary _ => true
    | _ => false
  match words with
  | [] => .ok false
  | [a, operator, b] =>
    if isBinary operator then binaryHolds s a (String.ofList operator) b
    else if a = ['('] && b = [')'] then whole s either [operator]
    else if a = ['!'] then do return !(← whole s either [operator, b])
    else whole s either words
  | [a, b, c, d] =>
    if a = ['('] && d = [')'] then whole s either [b, c]
    else if a = ['!'] then
      if isBinary c then do return !(← binaryHolds s b (String.ofList c) d)
      else do return !(← whole s either [b, c, d])
    else whole s either words
  | words => whole s either words

/-- Runs `test` with its words. -/
def run (s : State) (words : List Octets) : State :=
  match holds? s words with
  | .ok holds => s.withStatus (if holds then 0 else 1)
  | .error fault => s.fail 2 fault

/-- Runs `[`, whose last word closes it. -/
def runBracket (s : State) (words : List Octets) : State :=
  if words.getLast?.any fun word => word.head? = some ']' then run s words.dropLast
  else s.fail 2 "missing ]"

end ProtoTree.Shell.Condition
