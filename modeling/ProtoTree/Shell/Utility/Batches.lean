import ProtoTree.Shell.Flow
import ProtoTree.Shell.Utility.Running

/-! # Arguments from the input

The words of an input are the arguments of a program, which is run as often as
it takes: for so many words, for so many lines, or for as many words as fit.
-/

namespace ProtoTree.Shell.Utility

open Text (Octets)

/-! ## The words of an input -/

/-- A word of an input, and whether a line ends with it. -/
structure InputWord where
  text : Octets
  endsLine : Bool
  deriving Repr, Inhabited

/-- Where the reading of words is. -/
inductive WordPlace where
  | between
  | inside
  | quoted (mark : Char)
  | escaped
  deriving DecidableEq, Repr, Inhabited

/-- The words that were read, the last one first, and the one that is being read. -/
structure WordReading where
  done : List InputWord := []
  /-- The word so far, the last character first. -/
  current : Octets := []
  place : WordPlace := .between
  /-- What is wrong with the input; nothing is read behind it. -/
  fault : Option String := none
  deriving Repr, Inhabited

namespace WordReading

/-- What is wrong with a quote that does not end. -/
def openQuote (mark : Char) : String :=
  let kind := if mark == '\'' then "single" else "double"
  s!"unmatched {kind} quote; by default quotes are special to xargs unless you use the -0 option"

def addChar (r : WordReading) (c : Char) : WordReading := { r with current := c :: r.current, place := .inside }

def endWord (r : WordReading) (endsLine : Bool) : WordReading :=
  { r with done := ⟨r.current.reverse, endsLine⟩ :: r.done, current := [], place := .between }

/-- Reads one character; blanks end a word unless words are lines. -/
def step (linesOnly : Bool) (r : WordReading) (c : Char) : WordReading :=
  if r.fault.isSome then r
  else
    match r.place with
    | .escaped => r.addChar c
    | .quoted mark =>
      if c == '\n' then { r with fault := some (openQuote mark) }
      else if c == mark then { r with place := .inside }
      else { r with current := c :: r.current }
    | place =>
      if place = .between && (c == '\n' || c == ' ' || ('\t' ≤ c && c ≤ '\r')) then r
      else if c == '\n' then r.endWord true
      else if !linesOnly && (c == ' ' || c == '\t') then r.endWord false
      else if c == '\\' then { r with place := .escaped }
      else if c == '\'' || c == '"' then { r with place := .quoted c }
      else r.addChar c

/-- The words of some text, and what is wrong with it. -/
def ofText (linesOnly : Bool) (text : Octets) : List InputWord × Option String :=
  let r := text.foldl (step linesOnly) {}
  let r : WordReading :=
    match r.place with
    | .between => r
    | .quoted mark => if r.fault.isSome then r else { r with fault := some (openQuote mark) }
    | .inside | .escaped => if r.current.isEmpty then r else r.endWord false
  (r.done.reverse, r.fault)

end WordReading

/-! ## Batches -/

/-- How much one run of a program takes. -/
structure BatchLimits where
  words : Option Nat := none
  lines : Option Nat := none
  size : Nat := 131072
  deriving Repr, Inhabited

/-- The batches that are full, the last one first, and the one that is being filled. -/
structure Batches where
  done : List (List Octets) := []
  /-- The words so far, the last one first. -/
  current : List Octets := []
  lines : Nat := 0
  /-- A word is too long. -/
  fault : Option String := none
  deriving Repr, Inhabited

namespace Batches

/-- The room that words take, each with an end. -/
def sizeOf (words : List Octets) : Nat := words.foldl (fun n word => n + word.length + 1) 0

/-- Begins another batch. -/
def flush (b : Batches) : Batches :=
  if b.current.isEmpty then b else { b with done := b.current.reverse :: b.done, current := [], lines := 0 }

/-- Adds a word to a batch, or to the next one if it is full; `own` is the room that the program takes. -/
def add (limits : BatchLimits) (own : Nat) (b : Batches) (word : InputWord) : Batches :=
  if b.fault.isSome then b
  else if limits.size < own + sizeOf [word.text] then { b with fault := some "argument line too long" }
  else
    let b := if limits.size < own + sizeOf (word.text :: b.current) then b.flush else b
    let b := { b with current := word.text :: b.current, lines := b.lines + if word.endsLine then 1 else 0 }
    if limits.words.any (· ≤ b.current.length) || limits.lines.any (· ≤ b.lines) then b.flush else b

/-- The batches for some words, and what is wrong with a word. -/
def ofWords (limits : BatchLimits) (own : Nat) (words : List InputWord) : List (List Octets) × Option String :=
  let b := words.foldl (add limits own) {}
  (b.flush.done.reverse, b.fault)

end Batches

/-! ## The utility -/

/-- A text with another one in the place of a part of it, wherever that part stands. -/
def replaceAll (part other : Octets) (fuel : Nat) (text : Octets) : Octets :=
  match fuel, text with
  | 0, _ => text
  | _, [] => []
  | fuel + 1, c :: rest =>
    if !part.isEmpty && part.isPrefixOf text then other ++ replaceAll part other fuel (text.drop part.length)
    else c :: replaceAll part other fuel rest

/-- Runs one batch; what ends the program badly may end all of it. -/
def runBatch (run : Runner) (shows : Bool) (s : State) (words : List Octets) : State × Bool :=
  let name := words.headD []
  let s := if shows then s.mention (([' '].intercalate (words.map fun w => (shownName w).toList)) ++ ['\n']) else s
  let before := s.status
  let inner : State := run (s.fork.lead 0 (some .nowhere)) words fun e =>
    failed s (startStatus e) s!"{String.ofList name}: {e.wording}"
  let s := s.backFrom inner
  if inner.flow = .endless then (s, true)
  else if inner.flow = .next then (s, true)
  else
    match inner.outcome with
    | .killed signal => (failed s 125 s!"{String.ofList name}: terminated by signal {signal}", true)
    | .exited 0 => (s.withStatus before, false)
    | .exited 255 => (failed s 124 s!"{String.ofList name}: exited with status 255; aborting", true)
    | .exited _ => (s.withStatus 123, false)

/-- Runs batches one after another, as long as nothing ends all of it. -/
def runBatches (run : Runner) (shows : Bool) (s : State) : List (List Octets) → State × Bool
  | [] => (s, false)
  | words :: rest =>
    let (s, isOver) := runBatch run shows s words
    if isOver then (s, true) else runBatches run shows s rest

/-- The options of `xargs`. -/
def batchForms : List OptionForm :=
  [.plain '0' "null", .valued 'a' "arg-file", .valued 'd' "delimiter", .valued 'E' "", ⟨['e'], ["eof"], .maybe⟩,
    .valued 'I' "", ⟨['i'], ["replace"], .maybe⟩, .valued 'L' "", ⟨['l'], ["max-lines"], .maybe⟩,
    .valued 'n' "max-args", .plain 'o' "open-tty", .valued 'P' "max-procs", .plain 'p' "interactive",
    .plain 'r' "no-run-if-empty", .valued 's' "max-chars", .plain 't' "verbose", .plain 'x' "exit"]

/-- The kinds of options that exclude each other: by replaced text, by lines, by words. -/
def batchKind? : String → Option String
  | "I" | "i" => some "I"
  | "L" | "l" => some "L"
  | "n" => some "n"
  | _ => none

/-- The number of an option, which is one at least. -/
def batchNumber (key : String) (text : Octets) : Except String Nat :=
  match Arithmetic.readInt? text with
  | none => .error s!"invalid number \"{String.ofList text}\" for -{key} option"
  | some n => if n < 1 then .error s!"value {n} for -{key} option should be >= 1" else .ok n.toNat

/-- The character that ends each word, as an option gives it. -/
def delimiter? : Octets → Option Char
  | [c] => some c
  | ['\\', c] => (("abfnrtv\\0".toList).zip ['\x07', '\x08', '\x0c', '\n', '\r', '\t', '\x0b', '\\', '\x00']).lookup c
  | _ => none

/-- Runs a program with the words of the input as its arguments. -/
def xargs (s : State) (args : List Octets) (run : Runner) : State :=
  withLeadingArgs s 1 batchForms args fun a =>
    let command := if a.operands.isEmpty then ["echo".toList] else a.operands
    let numbers := a.flags.filterMap fun (key, text) =>
      if ["L", "n"].contains key || (key = "l" && !text.isEmpty) then some (batchNumber key text) else none
    let bad := numbers.findSome? fun
      | .error reason => some reason
      | .ok _ => none
    match bad, (a.value? "s").map (batchNumber "s"), (a.value? "P").filter fun t => (Arithmetic.readInt? t).isNone with
    | some reason, _, _ => misused s reason
    | none, some (.error reason), _ => misused s reason
    | none, _, some text => misused s s!"invalid number \"{String.ofList text}\" for -P option"
    | none, size, none =>
      let kind := (a.flags.filterMap fun f => batchKind? f.1).getLast?
      let lastOf (keys : List String) : Octets := ((a.flags.reverse.find? fun f => keys.contains f.1).map (·.2)).getD []
      let numberOf (keys : List String) : Option Nat := match batchNumber "" (lastOf keys) with
        | .ok n => some n
        | .error _ => some 1
      let place := if kind = some "I" then
          let text := lastOf ["I", "i"]
          some (if text.isEmpty then ['{', '}'] else text)
        else none
      let limits : BatchLimits :=
        { words := if kind = some "n" then numberOf ["n"] else none
          lines := if kind = some "L" then numberOf ["L", "l"] else none
          size := match size with
            | some (.ok n) => min n 131072
            | _ => 131072 }
      match (a.value? "d").map delimiter?, contentOf s 0 ((a.value? "a").getD ['-']) with
      | some none, _ =>
        let asked := String.ofList (lastOf ["d"])
        failed s 1 <| s!"Invalid input delimiter specification {asked}: the delimiter must be "
          ++ "either a single character or an escape sequence starting with \\."
      | _, .error e =>
        let file := lastOf ["a"]
        failed s 1 s!"Cannot open input file {quoted file}: {e.wording}"
      | ending, .ok (bytes, s) =>
        let text := Octets.ofBytes bytes
        let ending := if a.has "0" then some '\x00' else ending.bind fun c => c
        let (words, fault) : List InputWord × Option String :=
          match ending with
          | some c =>
            ((linesEnded c text).map fun piece => ⟨if piece.getLast? = some c then piece.dropLast else piece, true⟩, none)
          | none => WordReading.ofText place.isSome text
        let words := match (lastOf ["E", "e"] : Octets) with
          | [] => words
          | stop => if ending.isSome then words else words.takeWhile fun word => word.text ≠ stop
        let s := s.withStatus 0
        match place with
        | some part =>
          let batches := words.map fun word =>
            command.headD [] :: command.tail.map fun arg => replaceAll part word.text arg.length.succ arg
          let (s, isOver) := runBatches run (a.has "t") s batches
          if isOver then s else fault.elim s (failed s 1)
        | none =>
          let own := Batches.sizeOf command
          let (batches, tooLong) := Batches.ofWords limits own words
          let fault := tooLong.or fault
          let batches := if batches.isEmpty && fault.isNone && !a.has "r" then [[]] else batches
          if limits.size < own then failed s 1 "cannot fit single argument within argument list size limit"
          else
            let (s, isOver) := runBatches run (a.has "t") s (batches.map (command ++ ·))
            if isOver then s else fault.elim s (failed s 1)

end ProtoTree.Shell.Utility
