import ProtoTree.Shell.Regex
import ProtoTree.Shell.Utility.Printing

/-! # Scripts that edit lines

What a script for `sed` is made of, and how it is read. Blocks are kept flat:
each one knows where it ends, so that jumps lead to a place in the list.
-/

namespace ProtoTree.Shell.Utility

open Text (Octets)

/-! ## Parts of a script -/

/-- An expression to look for; the latest one that was looked for when there is none. -/
structure EditPattern where
  regex : Option Regex
  foldsCase : Bool := false
  deriving Repr, Inhabited

/-- Which lines a command is for. -/
inductive EditAddress where
  | line (number : Nat)
  | last
  /-- Each line that comes a number of steps behind the first one. -/
  | every (first step : Nat)
  | containing (p : EditPattern)
  deriving Repr, Inhabited

/-- Where a range of lines ends. -/
inductive EditRangeEnd where
  | address (a : EditAddress)
  /-- So many lines behind the first one. -/
  | behind (count : Nat)
  /-- At a line whose number is a multiple. -/
  | multiple (step : Nat)
  deriving Repr, Inhabited

/-- The lines that a command is for. -/
structure EditSelection where
  first : Option EditAddress := none
  last : Option EditRangeEnd := none
  negated : Bool := false
  deriving Repr, Inhabited

/-- How letters are turned to capitals or small ones. -/
inductive CaseChange where
  | upper
  | lower
  | upperNext
  | lowerNext
  | none
  deriving DecidableEq, Repr, Inhabited

/-- A part of what a match is replaced by. -/
inductive EditPiece where
  | text (chars : Octets)
  /-- What a group has stood for; number 0 is the whole match. -/
  | group (number : Nat)
  | change (change : CaseChange)
  deriving Repr, Inhabited

/-- What is replaced in lines. -/
structure Substitution where
  pattern : EditPattern
  pieces : List EditPiece
  /-- The first match that is replaced. -/
  number : Nat := 1
  /-- Matches behind it are replaced as well. -/
  all : Bool := false
  prints : Bool := false
  file : Option Octets := none
  deriving Repr, Inhabited

/-- What a command does. -/
inductive EditAction where
  /-- Starts a block that ends at a place. -/
  | block (stop : Nat)
  | nothing
  | insert (text : Octets)
  | append (text : Octets)
  | change (text : Octets)
  | delete
  | deleteFirst
  | print
  | printFirst
  | quit (status : Nat) (quiet : Bool)
  | next
  | nextBehind
  | hold (behind : Bool)
  | get (behind : Bool)
  | exchange
  | list
  | number
  | label (name : Octets)
  /-- Goes on at a label, or at the end: always, or if something was replaced, or if nothing was. -/
  | branch (whenReplaced : Option Bool) (label : Octets)
  | readFile (file : Octets)
  | writeFile (file : Octets)
  | substitute (s : Substitution)
  | translate (pairs : List (Char × Char))
  | clear
  deriving Repr, Inhabited

/-- A command of a script. -/
structure EditCommand where
  selection : EditSelection
  action : EditAction
  deriving Repr, Inhabited

/-! ## Reading -/

/-- What is wrong with a script, and how much of it was left. -/
structure EditFault where
  message : String
  left : Option Nat
  deriving Repr, Inhabited

/-- Reading takes text away from the front. -/
abbrev EditReading := StateT Octets (Except EditFault)

namespace EditReading

/-- Fails at the place that reading has come to. -/
def fault {α : Type} (message : String) : EditReading α := fun cs => .error ⟨message, some cs.length⟩

def peek : EditReading (Option Char) := fun cs => .ok (cs.head?, cs)

def skip : EditReading Unit := fun cs => .ok ((), cs.tail)

/-- Takes the characters that are wanted. -/
def takeAll (wanted : Char → Bool) : EditReading Octets := fun cs =>
  let taken := cs.takeWhile wanted
  .ok (taken, cs.drop taken.length)

def isSpace (c : Char) : Bool := c == ' ' || c == '\t' || c == '\r' || c == '\x0b' || c == '\x0c'

def skipSpaces : EditReading Unit := do let _ ← takeAll isSpace

/-- Takes a number, if there is one. -/
def number? : EditReading (Option Nat) := do
  let digits ← takeAll Char.isDigit
  return if digits.isEmpty then none else some (Digits.value digits)

/-- Takes what is left of a line. -/
def restOfLine : EditReading Octets := do
  let text ← takeAll (· != '\n')
  skip
  return text

/-- Nothing may come behind a command on its line. -/
def endOfCommand : EditReading Unit := do
  skipSpaces
  match ← peek with
  | none | some '}' | some '#' => return
  | some '\n' | some ';' => skip
  | some _ =>
    skip
    fault "extra characters after command"

/-- The text up to a delimiter, which may stand in it behind a backslash or, in an expression, in brackets. -/
def delimited? (ofExpression : Bool) (delimiter : Char) : EditReading (Option Octets) := fun cs =>
  go ofExpression delimiter cs.length.succ [] false cs
where
  /-- Goes on with what was taken in reverse. -/
  go (ofExpression : Bool) (delimiter : Char) (fuel : Nat) (taken : Octets) (inBrackets : Bool) (cs : Octets) :
      Except EditFault (Option Octets × Octets) :=
    match fuel, cs with
    | 0, _ | _, [] => .ok (none, [])
    | fuel + 1, c :: rest =>
      if c == delimiter && !inBrackets then .ok (some taken.reverse, rest)
      else if c == '\n' && ofExpression && !inBrackets then .ok (none, rest)
      else if c == '\\' && !inBrackets then
        match rest with
        | [] => .ok (none, [])
        | d :: rest =>
          if d == delimiter then go ofExpression delimiter fuel (d :: taken) false rest
          else go ofExpression delimiter fuel (d :: '\\' :: taken) false rest
      else if c == '[' && ofExpression && !inBrackets then
        let lead := rest.takeWhile (· == '^')
        let lead := lead.take 1
        let lead := if (rest.drop lead.length).head? = some ']' then lead ++ [']'] else lead
        go ofExpression delimiter fuel (lead.reverse ++ c :: taken) true (rest.drop lead.length)
      else if c == ']' && inBrackets then go ofExpression delimiter fuel (c :: taken) false rest
      else go ofExpression delimiter fuel (c :: taken) inBrackets rest

/-- The characters that letters behind backslashes stand for. -/
def controls : List (Char × Char) := [('t', '\t'), ('f', '\x0c'), ('v', '\x0b'), ('a', '\x07'), ('r', '\r')]

/-- An expression with the characters in place of letters behind backslashes. -/
def plainExpression (fuel : Nat) (cs : Octets) : Octets :=
  match fuel, cs with
  | 0, _ => cs
  | fuel + 1, '\\' :: c :: rest =>
    match controls.lookup c with
    | some d => d :: plainExpression fuel rest
    | none => '\\' :: c :: plainExpression fuel rest
  | fuel + 1, c :: rest => c :: plainExpression fuel rest
  | _, [] => []

/-- The expression of a text, and how many groups it has. -/
def pattern (extended foldsCase : Bool) (text : Octets) : EditReading (EditPattern × Nat) := do
  if text.isEmpty then return (⟨none, foldsCase⟩, 9)
  match Regex.ofText extended (plainExpression text.length.succ text) with
  | .ok (r, groups) => return (⟨some r, foldsCase⟩, groups)
  | .error reason => fault reason.message

/-- An address of one kind or another, if there is one. -/
def address? (extended : Bool) : EditReading (Option EditAddress) := do
  let containing (delimiter : Char) : EditReading (Option EditAddress) := do
    match ← delimited? true delimiter with
    | none => fault "unterminated address regex"
    | some text =>
      let flags ← takeAll fun c => c == 'I' || c == 'M'
      let (p, _) ← pattern extended (flags.contains 'I') text
      return some (.containing p)
  match ← peek with
  | some '$' =>
    skip
    return some .last
  | some '/' =>
    skip
    containing '/'
  | some '\\' =>
    skip
    match ← peek with
    | none => fault "unexpected `,'"
    | some c =>
      skip
      containing c
  | _ =>
    match ← number? with
    | none => return none
    | some n =>
      if (← peek) ≠ some '~' then return some (.line n)
      skip
      let step := (← number?).getD 0
      return some (if step = 0 then .line n else .every n step)

/-- Where a range ends. -/
def rangeEnd (extended : Bool) : EditReading EditRangeEnd := do
  match ← peek with
  | some '+' =>
    skip
    return .behind ((← number?).getD 0)
  | some '~' =>
    skip
    return .multiple ((← number?).getD 0)
  | _ =>
    match ← address? extended with
    | some a => return .address a
    | none =>
      skip
      fault "unexpected `,'"

/-- The lines that a command is for. -/
def selection (extended : Bool) : EditReading EditSelection := do
  let first ← address? extended
  skipSpaces
  let last ←
    if first.isSome && (← peek) = some ',' then do
      skip
      skipSpaces
      let stop ← rangeEnd extended
      pure (some stop)
    else pure none
  skipSpaces
  let marks ← takeAll fun c => c == '!' || isSpace c
  match first, last with
  | some (.line 0), some (.address (.containing _)) => pure ()
  | some (.line 0), _ =>
    skip
    fault "invalid usage of line address 0"
  | _, _ => pure ()
  return { first, last, negated := marks.contains '!' }

/-- The text of a command, which goes on in the next line behind a backslash. -/
def text : EditReading Octets := do
  skipSpaces
  match ← peek with
  | none => fault "expected \\ after `a', `c' or `i'"
  | some '\\' =>
    skip
    let blanks ← takeAll isSpace
    if (← peek) = some '\n' then
      skip
      body []
    else body blanks
  | some _ => body []
where
  /-- The text with its backslashes taken out. -/
  body (lead : Octets) : EditReading Octets := fun cs =>
    let (taken, rest) := go cs.length.succ [] cs
    .ok (lead ++ taken ++ ['\n'], rest)
  /-- Takes text up to the end of a line. -/
  go (fuel : Nat) (taken : Octets) (cs : Octets) : Octets × Octets :=
    match fuel, cs with
    | 0, _ | _, [] => (taken.reverse, [])
    | _ + 1, '\n' :: rest => (taken.reverse, rest)
    | fuel + 1, '\\' :: c :: rest => go fuel (c :: taken) rest
    | fuel + 1, c :: rest => if c == '\\' then go fuel taken rest else go fuel (c :: taken) rest

/-- The pieces of what a match is replaced by. -/
def piecesOf (fuel : Nat) (cs : Octets) : List EditPiece :=
  match fuel, cs with
  | 0, _ | _, [] => []
  | fuel + 1, '&' :: rest => .group 0 :: piecesOf fuel rest
  | fuel + 1, '\\' :: c :: rest =>
    if c.isDigit then .group (Digits.digitValue c) :: piecesOf fuel rest
    else
      match [('U', CaseChange.upper), ('L', .lower), ('u', .upperNext), ('l', .lowerNext), ('E', .none)].lookup c with
      | some change => .change change :: piecesOf fuel rest
      | none =>
        let d := if c == 'n' then '\n' else (controls.lookup c).getD c
        .text [d] :: piecesOf fuel rest
  | fuel + 1, c :: rest => .text [c] :: piecesOf fuel rest

/-- The flags behind a substitution. -/
def flags (fuel : Nat) (numbered : Bool) (s : Substitution) : EditReading (Substitution × Bool) := do
  match fuel with
  | 0 => return (s, false)
  | fuel + 1 =>
    match ← peek with
    | some 'g' =>
      skip
      if s.all then fault "multiple `g' options to `s' command"
      flags fuel numbered { s with all := true }
    | some 'p' =>
      skip
      if s.prints then fault "multiple `p' options to `s' command"
      flags fuel numbered { s with prints := true }
    | some 'w' =>
      skip
      skipSpaces
      let file ← restOfLine
      if file.isEmpty then fault "missing filename in r/R/w/W commands"
      return ({ s with file := some file }, false)
    | some c =>
      if c == 'i' || c == 'I' then
        skip
        let (s, isOpen) ← flags fuel numbered s
        return ({ s with pattern := { s.pattern with foldsCase := true } }, isOpen)
      else if c == 'm' || c == 'M' then
        skip
        flags fuel numbered s
      else if c.isDigit then
        let n := (← number?).getD 0
        if numbered then fault "multiple number options to `s' command"
        if n = 0 then fault "number option to `s' command may not be zero"
        flags fuel true { s with number := n }
      else if isSpace c then
        skip
        flags fuel numbered s
      else if c == '\n' || c == ';' || c == '}' || c == '#' then return (s, true)
      else
        skip
        fault "unknown option to `s'"
    | none => return (s, true)

/-- A substitution behind its letter. -/
def substitution (extended : Bool) : EditReading EditAction := do
  let unfinished {α : Type} : EditReading α := fault "unterminated `s' command"
  match ← peek with
  | none => unfinished
  | some delimiter =>
    skip
    match ← delimited? true delimiter with
    | none => unfinished
    | some expression =>
      match ← delimited? false delimiter with
      | none => unfinished
      | some replacement =>
        let pieces := piecesOf replacement.length.succ replacement
        let (s, isOpen) ← flags (← get).length.succ false { pattern := ⟨none, false⟩, pieces }
        let (p, groups) ← pattern extended s.pattern.foldsCase expression
        let beyond := pieces.findSome? fun piece =>
          match piece with
          | .group n => if groups < n then some n else none
          | _ => none
        match beyond with
        | some n => fault s!"invalid reference \\{n} on `s' command's RHS"
        | none => pure ()
        if isOpen then endOfCommand
        return .substitute { s with pattern := p }

/-- The pairs of a translation behind its letter. -/
def translation : EditReading EditAction := do
  let unfinished {α : Type} : EditReading α := fault "unterminated `y' command"
  let rec plain (fuel : Nat) (cs : Octets) : Octets :=
    match fuel, cs with
    | 0, _ => cs
    | fuel + 1, '\\' :: c :: rest =>
      if c == '\\' then '\\' :: plain fuel rest
      else if c == 'n' then '\n' :: plain fuel rest
      else
        match controls.lookup c with
        | some d => d :: plain fuel rest
        | none => '\\' :: c :: plain fuel rest
    | fuel + 1, c :: rest => c :: plain fuel rest
    | _, [] => []
  match ← peek with
  | none => unfinished
  | some delimiter =>
    skip
    match ← delimited? false delimiter with
    | none => unfinished
    | some before =>
      match ← delimited? false delimiter with
      | none => unfinished
      | some after =>
        let before := plain before.length.succ before
        let after := plain after.length.succ after
        if before.length ≠ after.length then fault "strings for `y' command are different lengths"
        endOfCommand
        return .translate (before.zip after)

/-- The name of a file behind a letter. -/
def fileName : EditReading Octets := do
  skipSpaces
  let file ← restOfLine
  if file.isEmpty then fault "missing filename in r/R/w/W commands"
  return file

/-- The name of a label behind a letter. -/
def labelName : EditReading Octets := do
  skipSpaces
  let name ← takeAll fun c => c != '\n' && c != ';' && c != '}' && !isSpace c
  endOfCommand
  return name

/-- The letters of commands that need nothing behind them. -/
def plainActions : List (Char × EditAction) :=
  [('d', .delete), ('D', .deleteFirst), ('p', .print), ('P', .printFirst), ('n', .next), ('N', .nextBehind),
    ('h', .hold false), ('H', .hold true), ('g', .get false), ('G', .get true), ('x', .exchange), ('l', .list),
    ('=', .number), ('z', .clear)]

/-- What a command does that has a letter. -/
def action (extended : Bool) (letter : Char) : EditReading EditAction := do
  match plainActions.lookup letter with
  | some action =>
    endOfCommand
    return action
  | none =>
    match letter with
    | 'a' => return .append (← text)
    | 'i' => return .insert (← text)
    | 'c' => return .change (← text)
    | 'q' | 'Q' =>
      skipSpaces
      let status := (← number?).getD 0
      endOfCommand
      return .quit status (letter == 'Q')
    | 'b' => return .branch none (← labelName)
    | 't' => return .branch (some true) (← labelName)
    | 'T' => return .branch (some false) (← labelName)
    | 'r' => return .readFile (← fileName)
    | 'w' => return .writeFile (← fileName)
    | 's' => substitution extended
    | 'y' => translation
    | letter => fault s!"unknown command: `{String.ofList [letter]}'"

/-- The commands of a script. Those read so far are in reverse, and the places of open blocks are kept. -/
def commands (fuel : Nat) (extended : Bool) (done : List EditCommand) (blocks : List Nat) :
    EditReading (List EditCommand) := do
  match fuel with
  | 0 => return done.reverse
  | fuel + 1 =>
    let _ ← takeAll fun c => isSpace c || c == '\n' || c == ';'
    match ← peek with
    | none =>
      if blocks.isEmpty then return done.reverse
      else fun _ => .error ⟨"unmatched `\x7b'", none⟩
    | some _ =>
      let chosen ← selection extended
      match ← peek with
      | none => fault "missing command"
      | some '#' =>
        if chosen.first.isSome then
          skip
          fault "comments don't accept any addresses"
        let _ ← restOfLine
        commands fuel extended done blocks
      | some '{' =>
        skip
        commands fuel extended (⟨chosen, .block 0⟩ :: done) (done.length :: blocks)
      | some '}' =>
        skip
        match blocks with
        | [] => fault "unexpected `\x7d'"
        | start :: blocks =>
          if chosen.first.isSome then fault "\x7d doesn't want any addresses"
          endOfCommand
          let here := done.length
          let closed := done.reverse.mapIdx fun i c => if i = start then { c with action := .block here } else c
          commands fuel extended (⟨{}, .nothing⟩ :: closed.reverse) blocks
      | some ':' =>
        skip
        if chosen.first.isSome then fault ": doesn't want any addresses"
        skipSpaces
        let name ← takeAll fun c => c != '\n' && c != ';' && !isSpace c
        if name.isEmpty then fault "\":\" lacks a label"
        commands fuel extended (⟨{}, .label name⟩ :: done) blocks
      | some letter =>
        skip
        let action ← action extended letter
        commands fuel extended (⟨chosen, action⟩ :: done) blocks

end EditReading

/-- The commands of a script in parts, or what is wrong with it. -/
def EditCommand.ofTexts (extended : Bool) (parts : List Octets) : Except String (List EditCommand) :=
  let whole := ['\n'].intercalate parts
  match (EditReading.commands whole.length.succ extended [] []).run whole with
  | .error fault =>
    let position := fault.left.elim 0 (whole.length - ·)
    let rec place (number position : Nat) : List Octets → Nat × Nat
      | part :: next :: rest =>
        if part.length < position then place (number + 1) (position - part.length - 1) (next :: rest)
        else (number, position)
      | _ => (number, position)
    let (number, position) := place 1 position parts
    .error s!"-e expression #{number}, char {position}: {fault.message}"
  | .ok (commands, _) =>
    let labels := commands.filterMap fun c =>
      match c.action with
      | .label name => some name
      | _ => none
    let lost := commands.findSome? fun c =>
      match c.action with
      | .branch _ name => if name.isEmpty || labels.contains name then none else some name
      | _ => none
    match lost with
    | some name => .error s!"can't find label for jump to `{String.ofList name}'"
    | none => .ok commands

end ProtoTree.Shell.Utility
