import ProtoTree.Shell.Regex
import ProtoTree.Shell.Utility.Files
import ProtoTree.Shell.Utility.Listing
import ProtoTree.Shell.Utility.Running

/-! # Walks through directories

A walk comes to a directory and to what is below it. At each place an
expression tells what to do there: its tests and actions hold or not, and they
are joined by `and`, `or` and `not`, so that one that does not hold can keep
those behind it from being looked at.
-/

namespace ProtoTree.Shell.Utility

open Text (Octets)

/-! ## Expressions -/

/-- How a number is compared with the one that is asked for. -/
structure CountTest where
  sign : Option Char
  number : Nat
  deriving Repr, Inhabited

/-- Whether a number is as it is asked for: the same, more or less. -/
def CountTest.holds (t : CountTest) (n : Int) : Bool :=
  match t.sign with
  | some '+' => t.number < n
  | some _ => n < t.number
  | none => n = t.number

/-- A question about a place that a walk comes to. -/
inductive WalkTest where
  | always (holds : Bool)
  | named (p : Pattern) (foldsCase : Bool)
  | placed (p : Pattern) (foldsCase : Bool)
  | matching (r : Regex) (foldsCase : Bool)
  | kind (letters : List Char)
  | isEmpty
  | size (t : CountTest) (unit : Nat)
  | links (t : CountTest)
  | changed (t : CountTest) (unit : Int)
  | newerThan (stamp : Int)
  /-- The permissions are these, or hold all of these, or some of these. -/
  | mode (sign : Option Char) (mode : Nat)
  deriving Inhabited

/-- What is done at a place. -/
inductive WalkAction where
  | print (ending : Char)
  | printAs (format : Octets)
  | delete
  | prune
  | quit
  | run (words : List Octets)
  /-- The program is run once, at the end, for all the places. -/
  | gather (words : List Octets)
  deriving Inhabited

/-- What a walk looks at and does at each place. -/
inductive WalkExpr where
  | test (t : WalkTest)
  | action (a : WalkAction)
  | negation (e : WalkExpr)
  | both (a b : WalkExpr)
  | either (a b : WalkExpr)
  /-- Both are looked at, whether or not the first one holds. -/
  | sequence (a b : WalkExpr)
  deriving Inhabited

/-- Whether an expression does something that shows. -/
def WalkExpr.acts : WalkExpr → Bool
  | .test _ | .action .prune => false
  | .action _ => true
  | .negation e => e.acts
  | .both a b | .either a b | .sequence a b => a.acts || b.acts

/-! ## Reading expressions -/

/-- How a walk goes, and the words of its expression that are left. -/
structure WalkReading where
  rest : List Octets
  least : Nat := 0
  most : Option Nat := none
  contentsFirst : Bool := false
  deletes : Bool := false
  prunes : Bool := false
  /-- An explicit request for the contents of directories before themselves. -/
  asksForContents : Bool := false
  deriving Inhabited

/-- Reads words; what is wrong ends it. -/
abbrev WalkReader := StateT WalkReading (Except String)

namespace WalkReader

/-- The value of the word `name`. -/
def value (name : String) : WalkReader Octets := do
  match (← get).rest with
  | v :: rest =>
    modify fun r => { r with rest }
    return v
  | [] => throw s!"missing argument to \x60{name}'"

/-- A number behind a sign, or alone. -/
def count? (text : Octets) : Option CountTest :=
  let (sign, digits) := match text with
    | '+' :: digits => (some '+', digits)
    | '-' :: digits => (some '-', digits)
    | digits => (none, digits)
  if Digits.isNumber digits then some ⟨sign, Digits.value digits⟩ else none

/-- The value of the word `name`, which is a number. -/
def count (name : String) : WalkReader CountTest := do
  let text ← value name
  match count? text with
  | some t => return t
  | none => throw s!"invalid argument \x60{String.ofList text}' to \x60{name}'"

/-- The value of the word `name`, which is a depth. -/
def depth (name : String) : WalkReader Nat := do
  let text ← value name
  if Digits.isNumber text then return Digits.value text
  else throw s!"Expected a positive decimal integer argument to {name}, but got {cited text}"

/-- A size and its unit in bytes. -/
def size : WalkReader WalkTest := do
  let text ← value "-size"
  let units : List (Char × Nat) :=
    [('c', 1), ('w', 2), ('b', 512), ('k', 1024), ('M', 1048576), ('G', 1073741824)]
  let (digits, unit) := match text.getLast?.bind fun c => units.lookup c with
    | some unit => (text.dropLast, unit)
    | none => (text, 512)
  match count? digits with
  | some t => return .size t unit
  | none => throw s!"invalid -size type \x60{String.ofList (text.getLast?.elim [] fun c => [c])}'"

/-- Kinds of entries. -/
def kind : WalkReader WalkTest := do
  let text ← value "-type"
  let pieces := text.splitOn ','
  match pieces.find? fun piece => piece.length ≠ 1 || !"bcdpfls".toList.contains (piece.headD ' ') with
  | none => return .kind pieces.flatten
  | some piece =>
    if 1 < piece.length then throw "Must separate multiple arguments to -type using: ','"
    else throw s!"Unknown argument to -type: {String.ofList piece}"

/-- Permissions. -/
def mode : WalkReader WalkTest := do
  let text ← value "-perm"
  let (sign, body) := match text with
    | '-' :: body => (some '-', body)
    | '/' :: body => (some '/', body)
    | body => (none, body)
  match ModeChange.ofText? body with
  | some changes => return .mode sign (ModeChange.applyAll changes false 0 0)
  | none => throw s!"invalid mode {cited text}"

/-- The words of a program, up to the one that ends them. -/
def program (name : String) : WalkReader WalkAction := do
  let rest := (← get).rest
  let isEnd (before : Octets) (word : Octets) : Bool := word = [';'] || (word = ['+'] && before = ['{', '}'])
  let count := (([] :: rest).zip rest).findIdx fun (before, word) => isEnd before word
  match rest[count]? with
  | none => throw s!"missing argument to \x60{name}'"
  | some stop =>
    modify fun r => { r with rest := rest.drop (count + 1) }
    let words := rest.take count
    if words.isEmpty then throw s!"missing argument to \x60{name}'"
    else if stop = [';'] then return .run words
    else if words.dropLast.contains ['{', '}'] then throw "Only one instance of \x7b\x7d is supported with -exec ... +"
    else return .gather words.dropLast

/-- A pattern, for the word `name`. -/
def pattern (name : String) (foldsCase : Bool) : WalkReader Pattern := do
  let text ← value name
  return Pattern.ofText (if foldsCase then text.map Char.toLower else text)

/-- An expression that has to match all of a place. -/
def regex (name : String) : WalkReader Regex := do
  match Regex.ofText false (← value name) with
  | .ok (r, _) => return r
  | .error fault => throw fault.message

/-- What one word asks for, given the state before the walk. -/
def primary (s : State) (name : String) : WalkReader WalkExpr := do
  let passed : WalkExpr := .test (.always true)
  match name with
  | "-true" | "-noleaf" | "-follow" | "-xdev" | "-mount" | "-warn" | "-nowarn" | "-daystart"
  | "-ignore_readdir_race" => return passed
  | "-false" => return .test (.always false)
  | "-name" => return .test (.named (← pattern name false) false)
  | "-iname" => return .test (.named (← pattern name true) true)
  | "-path" | "-wholename" => return .test (.placed (← pattern name false) false)
  | "-ipath" | "-iwholename" => return .test (.placed (← pattern name true) true)
  | "-regex" => return .test (.matching (← regex name) false)
  | "-iregex" => return .test (.matching (← regex name) true)
  | "-type" => return .test (← kind)
  | "-empty" => return .test .isEmpty
  | "-size" => return .test (← size)
  | "-links" => return .test (.links (← count name))
  | "-mtime" => return .test (.changed (← count name) 86400000000000)
  | "-mmin" => return .test (.changed (← count name) 60000000000)
  | "-newer" =>
    let file ← value name
    match s.entryOf? file true with
    | .ok n => return .test (.newerThan (s.stampOf n))
    | .error e => throw s!"{cited file}: {e.wording}"
  | "-perm" => return .test (← mode)
  | "-readable" | "-writable" => return passed
  | "-executable" => return .test (.mode (some '/') 0o111)
  | "-print" => return .action (.print '\n')
  | "-print0" => return .action (.print '\x00')
  | "-printf" => return .action (.printAs (← value name))
  | "-prune" =>
    modify fun r => { r with prunes := true }
    return .action .prune
  | "-quit" => return .action .quit
  | "-delete" =>
    modify fun r => { r with contentsFirst := true, deletes := true }
    return .action .delete
  | "-exec" => return .action (← program name)
  | "-depth" | "-d" =>
    modify fun r => { r with contentsFirst := true, asksForContents := true }
    return passed
  | "-maxdepth" =>
    let n ← depth name
    modify fun r => { r with most := some n }
    return passed
  | "-mindepth" =>
    let n ← depth name
    modify fun r => { r with least := n }
    return passed
  | name =>
    if name.startsWith "-" then throw s!"unknown predicate \x60{name}'"
    else throw s!"paths must precede expression: \x60{name}'"

/-- How tightly what joins two expressions binds them: not at all for what does not join any. -/
def binding (word : Octets) : Nat :=
  match String.ofList word with
  | "," => 1
  | "-o" | "-or" => 2
  | ")" => 0
  | _ => 3

mutual

/-- One word with its value, an expression in parentheses, or a negation. -/
def operand (fuel : Nat) (s : State) : WalkReader WalkExpr :=
  match fuel with
  | 0 => throw "expression too deep"
  | fuel + 1 => do
    match (← get).rest with
    | [] => throw "expected an expression"
    | word :: rest =>
      modify fun r => { r with rest }
      match String.ofList word with
      | "(" =>
        match rest with
        | [')'] :: _ => throw "invalid expression; empty parentheses are not allowed."
        | _ =>
          let e ← joined fuel s 1
          match (← get).rest with
          | [')'] :: rest =>
            modify fun r => { r with rest }
            return e
          | _ => throw "invalid expression; I was expecting to find a ')' somewhere but did not see one."
      | "!" | "-not" =>
        if rest.isEmpty then throw s!"expected an expression after {cited word}"
        else return .negation (← operand fuel s)
      | ")" => throw "you have too many ')'"
      | "-o" | "-or" | "-a" | "-and" | "," =>
        throw s!"invalid expression; you have used a binary operator {cited word} with nothing before it."
      | name => primary s name

/-- Expressions that are joined at least as tightly as a level asks for. -/
def joined (fuel : Nat) (s : State) (level : Nat) : WalkReader WalkExpr :=
  match fuel with
  | 0 => throw "expression too deep"
  | fuel + 1 => do
    let first ← if level = 3 then operand fuel s else joined fuel s (level + 1)
    more fuel s level first

/-- What is joined to an expression at one level. -/
def more (fuel : Nat) (s : State) (level : Nat) (first : WalkExpr) : WalkReader WalkExpr :=
  match fuel with
  | 0 => throw "expression too deep"
  | fuel + 1 => do
    match (← get).rest with
    | [] => return first
    | word :: rest =>
      if binding word ≠ level then return first
      else
        let isJoint := level ≠ 3 || word = ['-', 'a'] || word = "-and".toList
        if isJoint then
          if rest.isEmpty then throw s!"expected an expression after {cited word}"
          modify fun r => { r with rest }
        let second ← if level = 3 then operand fuel s else joined fuel s (level + 1)
        more fuel s level (match level with
          | 1 => .sequence first second
          | 2 => .either first second
          | _ => .both first second)

end

/-- A whole expression; without one every place is passed. -/
def whole (s : State) : WalkReader WalkExpr := do
  let rest := (← get).rest
  if rest.isEmpty then return .action (.print '\n')
  let e ← joined (6 * rest.length + 6) s 1
  if (← get).rest.head? = some [')'] then throw "you have too many ')'"
  let r ← get
  if r.deletes && r.prunes && !r.asksForContents then
    throw <| "The -delete action automatically turns on -depth, but -prune does nothing when -depth is in effect.  "
      ++ "If you want to carry on anyway, just explicitly use the -depth option."
  return if e.acts then e else .both e (.action (.print '\n'))

end WalkReader

/-! ## Walking -/

/-- A place that a walk comes to. -/
structure WalkPlace where
  path : Octets
  start : Octets
  depth : Nat
  entry : Nat

/-- What a walk has come to. -/
structure WalkRun where
  state : State
  /-- What is below the place is passed by. -/
  pruned : Bool := false
  /-- Nothing more is looked at. -/
  isOver : Bool := false
  failed : Bool := false
  /-- The places for programs that are run at the end, the last one first. -/
  gathered : List (List Octets × Octets) := []

/-- The last name of a place. -/
def WalkPlace.name (p : WalkPlace) : Octets := lastName p.path

/-- Whether a test holds at a place. -/
def WalkTest.holds (t : WalkTest) (s : State) (p : WalkPlace) : Bool :=
  let entry := s.disk.entryAt p.entry
  let folded (foldsCase : Bool) (text : Octets) : Octets := if foldsCase then text.map Char.toLower else text
  match t with
  | .always holds => holds
  | .named pattern foldsCase => pattern.accepts (folded foldsCase p.name)
  | .placed pattern foldsCase => pattern.accepts (folded foldsCase p.path)
  | .matching r foldsCase =>
    (r.ends foldsCase { position := 0, before := none, rest := p.path }).any fun q => q.rest.isEmpty
  | .kind letters =>
    let letter := kindLetter entry
    letters.contains (if letter == '-' then 'f' else letter)
  | .isEmpty =>
    match entry with
    | .directory => (s.disk.listNames p.entry).isEmpty
    | .file bytes => bytes.isEmpty
    | _ => false
  | .size t unit => t.holds ((sizeOf s p.entry + unit - 1) / unit : Nat)
  | .links t => t.holds (linksOf s p.entry)
  | .changed t unit => t.holds ((s.clock - s.stampOf p.entry) / unit)
  | .newerThan stamp => stamp < s.stampOf p.entry
  | .mode sign asked =>
    let own := s.disk.modeOf p.entry
    match sign with
    | none => own = asked
    | some '-' => own &&& asked = asked
    | some _ => asked = 0 || own &&& asked ≠ 0

/-- A format with the facts about a place in it. -/
def formatted (s : State) (p : WalkPlace) : Octets → Octets
  | '%' :: letter :: rest =>
    let fact : Octets := match letter with
      | 'p' => p.path
      | 'f' => p.name
      | 'h' => if p.path.contains '/' then above p.path else ['.']
      | 'P' => (p.path.drop p.start.length).dropWhile (· == '/')
      | 's' => Digits.ofNat (sizeOf s p.entry)
      | 'd' => Digits.ofNat p.depth
      | 'm' => Nat.toDigits 8 (s.disk.modeOf p.entry)
      | 'M' => kindLetter (s.disk.entryAt p.entry) :: modeLetters (s.disk.modeOf p.entry)
      | 'n' => Digits.ofNat (linksOf s p.entry)
      | 'y' => [if kindLetter (s.disk.entryAt p.entry) == '-' then 'f' else kindLetter (s.disk.entryAt p.entry)]
      | 'l' => match s.disk.entryAt p.entry with
        | .link target => Octets.ofBytes target.bytes
        | _ => []
      | 'H' => p.start
      | 'u' | 'g' => "root".toList
      | 'U' | 'G' => ['0']
      | '%' => ['%']
      | c => ['%', c]
    fact ++ formatted s p rest
  | '\\' :: letter :: rest =>
    match ("abfnrtv\\0".toList.zip ['\x07', '\x08', '\x0c', '\n', '\r', '\t', '\x0b', '\\', '\x00']).lookup letter with
    | some c => c :: formatted s p rest
    | none => '\\' :: letter :: formatted s p rest
  | c :: rest => c :: formatted s p rest
  | [] => []

/-- Runs a program; its status, or that there is none. -/
def runFromWalk (run : Runner) (s : State) (words : List Octets) : State × Bool :=
  let inner : State := run s.fork words fun e => failed s 1 s!"{cited (words.headD [])}: {e.wording}"
  let before := s.status
  let s := s.backFrom inner
  (s.withStatus before, inner.flow ≠ .next && inner.outcome.status = 0)

/-- A text with a place for each pair of braces. -/
def withPlace (path : Octets) : Octets → Octets
  | '{' :: '}' :: rest => path ++ withPlace path rest
  | c :: rest => c :: withPlace path rest
  | [] => []

/-- Does what there is to do at a place. -/
def WalkAction.apply (act : WalkAction) (run : Runner) (contentsFirst : Bool) (w : WalkRun) (p : WalkPlace) :
    Bool × WalkRun :=
  match act with
  | .print ending => (true, { w with state := put w.state (p.path ++ [ending]) })
  | .printAs format => (true, { w with state := put w.state (formatted w.state p format) })
  | .prune => (true, { w with pruned := !contentsFirst })
  | .quit => (true, { w with isOver := true })
  | .delete =>
    if p.path = ['.'] then (true, w)
    else
      let gone := if w.state.disk.entryAt p.entry = .directory then removeDir w.state p.path else unlink w.state p.path
      match gone with
      | .ok s => (true, { w with state := s })
      | .error e => (false, { w with state := tell w.state s!"cannot delete {cited p.path}: {e.wording}", failed := true })
  | .run words =>
    let (s, holds) := runFromWalk run w.state (words.map (withPlace p.path))
    (holds, { w with state := s, isOver := w.isOver || s.flow ≠ .next })
  | .gather words => (true, { w with gathered := (words, p.path) :: w.gathered })

/-- Looks at an expression at a place. -/
def WalkExpr.apply (run : Runner) (contentsFirst : Bool) (p : WalkPlace) (w : WalkRun) : WalkExpr → Bool × WalkRun
  | .test t => (t.holds w.state p, w)
  | .action a => if w.isOver then (true, w) else a.apply run contentsFirst w p
  | .negation e =>
    let (holds, w) := e.apply run contentsFirst p w
    (!holds, w)
  | .both a b =>
    let (holds, w) := a.apply run contentsFirst p w
    if holds && !w.isOver then b.apply run contentsFirst p w else (false, w)
  | .either a b =>
    let (holds, w) := a.apply run contentsFirst p w
    if holds || w.isOver then (true, w) else b.apply run contentsFirst p w
  | .sequence a b =>
    let (_, w) := a.apply run contentsFirst p w
    if w.isOver then (true, w) else b.apply run contentsFirst p w

/-- Comes to a place and to what is below it. -/
def walkFrom (fuel : Nat) (run : Runner) (r : WalkReading) (follows : Bool) (e : WalkExpr) (w : WalkRun)
    (p : WalkPlace) : WalkRun :=
  match fuel with
  | 0 => w
  | fuel + 1 =>
    if w.isOver then w
    else
      let look (w : WalkRun) : WalkRun := if p.depth < r.least then w else (e.apply run r.contentsFirst p w).2
      let isDir := w.state.disk.entryAt p.entry = .directory
      let w := { w with pruned := false }
      let w := if r.contentsFirst then w else look w
      let goesDown := isDir && !w.pruned && r.most.all (p.depth < ·)
      let w :=
        if !goesDown then w
        else
          (w.state.namesIn p.entry).foldl (fun w name =>
            let path := within p.path name
            let found := match w.state.entryOf? path follows with
              | .ok n => some n
              | .error _ => (w.state.entryOf? path false).toOption
            match found with
            | some entry => walkFrom fuel run r follows e w { p with path, depth := p.depth + 1, entry }
            | none => w) w
      if r.contentsFirst && !w.isOver then look w else w

/-- Runs the programs that were to be run for all places. -/
def runGathered (run : Runner) (w : WalkRun) : WalkRun :=
  let all := w.gathered.reverse
  (all.map (·.1)).eraseDups.foldl (fun w words =>
    let paths := (all.filter fun g => g.1 = words).map (·.2)
    let (s, holds) := runFromWalk run w.state (words ++ paths)
    { w with state := s, failed := w.failed || !holds }) w

/-- Walks through directories. -/
def find (s : State) (args : List Octets) (run : Runner) : State :=
  let switches := args.takeWhile fun arg => [['-', 'H'], ['-', 'L'], ['-', 'P']].contains arg
  let follows := switches.getLast? = some ['-', 'L']
  let args := args.drop switches.length
  let isStart (arg : Octets) : Bool :=
    arg.head? ≠ some '-' && arg ≠ ['('] && arg ≠ ['!'] && arg ≠ [')']
  let starts := args.takeWhile isStart
  match (WalkReader.whole s).run { rest := args.drop starts.length } with
  | .error reason => failed s 1 reason
  | .ok (e, r) =>
    let starts := if starts.isEmpty then [['.']] else starts
    let w := starts.foldl (fun (w : WalkRun) start =>
      if w.isOver then w
      else
        let found : Except SystemError Nat := match w.state.entryOf? start (follows || switches.getLast? = some ['-', 'H']) with
          | .ok n => .ok n
          | .error _ => w.state.entryOf? start false
        match found with
        | .ok entry =>
          walkFrom (w.state.disk.entries.size + 1) run r follows e w { path := start, start, depth := 0, entry }
        | .error problem => { w with state := tell w.state s!"{cited start}: {problem.wording}", failed := true })
      { state := s.withStatus 0 }
    let w := if w.state.flow = .next then runGathered run w else w
    w.state.withStatus (if w.failed then 1 else 0)

end ProtoTree.Shell.Utility
