import ProtoTree.Shell.Utility.EditScript
import ProtoTree.Shell.Utility.Files

/-! # Editing lines

Lines go through a script one after another. A command acts on the line that is
held in the buffer, and another buffer keeps text from line to line.
-/

namespace ProtoTree.Shell.Utility

open Text (Bytes Octets)

/-- Where the lines of a range are. -/
inductive RangeState where
  | outside
  /-- Inside, up to a line if that is known. -/
  | inside (stop : Option Nat)
  deriving DecidableEq, Repr, Inhabited

/-- An edit that goes on. -/
structure Editing where
  commands : Array EditCommand
  quiet : Bool
  /-- What ends lines. -/
  ending : Char
  /-- The lines that are left, each with its end. -/
  left : List Octets
  /-- The number of the line in the buffer. -/
  line : Nat := 0
  buffer : Octets := []
  held : Octets := []
  /-- The latest line has no end. -/
  isOpen : Bool := false
  /-- What is printed, the latest first, and whether its end is missing. -/
  printed : List Octets := []
  lacksEnd : Bool := false
  /-- What is printed when the next line comes. -/
  waiting : List (Octets ⊕ Octets) := []
  ranges : List (Nat × RangeState) := []
  replaced : Bool := false
  latest : Option Regex := none
  /-- What is written to files, the latest first. -/
  written : List (Octets × Octets) := []
  ended : Option Nat := none
  fault : Option String := none

namespace Editing

/-- Prints text, behind the end that is missing. -/
def print (e : Editing) (text : Octets) (withEnd : Bool := true) : Editing :=
  let lead := if e.lacksEnd then [e.ending] else []
  { e with
    printed := (lead ++ text ++ if withEnd then [e.ending] else []) :: e.printed, lacksEnd := !withEnd }

/-- Whether the line in the buffer is the last one. -/
def isLast (e : Editing) : Bool := e.left.isEmpty

/-- Prints the buffer. The last line ends as it did. -/
def printBuffer (e : Editing) : Editing := e.print e.buffer (!(e.isLast && e.isOpen))

/-- Takes the next line. -/
def take (e : Editing) : Option (Octets × Editing) :=
  match e.left with
  | [] => none
  | line :: left =>
    let isOpen := line.getLast? ≠ some e.ending
    some (if isOpen then line else line.dropLast, { e with left, line := e.line + 1, isOpen })

/-- The expression of a pattern, remembered. -/
def lookedFor (e : Editing) (p : EditPattern) : Option Regex × Editing :=
  match p.regex with
  | some r => (some r, { e with latest := some r })
  | none => (e.latest, if e.latest.isNone then { e with fault := some "no previous regular expression" } else e)

/-- Whether an address is for the line in the buffer. -/
def isAt (e : Editing) (a : EditAddress) : Bool × Editing :=
  match a with
  | .line n => (e.line = n, e)
  | .last => (e.isLast, e)
  | .every first step => (first ≤ e.line && (e.line - first) % step = 0, e)
  | .containing p =>
    let (r, e) := e.lookedFor p
    (r.any fun r => (r.find? p.foldsCase { rest := e.buffer }).isSome, e)

/-- The state of a range whose first line is the one in the buffer. -/
def entered (e : Editing) (stop : EditRangeEnd) : RangeState :=
  let upTo (n : Nat) : RangeState := if n ≤ e.line then .outside else .inside (some n)
  match stop with
  | .behind count => upTo (e.line + count)
  | .multiple step => if step = 0 then .outside else upTo ((e.line / step + 1) * step)
  | .address (.line n) => upTo n
  | .address _ => .inside none

/-- Whether a command is for the line in the buffer; `i` is the place of the command. -/
def selects (e : Editing) (i : Nat) (chosen : EditSelection) : Bool × Editing :=
  let (holds, e) : Bool × Editing :=
    match chosen.first, chosen.last with
    | none, _ => (true, e)
    | some a, none => e.isAt a
    | some a, some stop =>
      let set (state : RangeState) (e : Editing) : Editing :=
        { e with ranges := (i, state) :: e.ranges.filter (·.1 ≠ i) }
      let state := (e.ranges.lookup i).getD <| match a with
        | .line 0 => .inside none
        | _ => .outside
      match state with
      | .outside =>
        let (starts, e) := e.isAt a
        if starts then (true, set (e.entered stop) e) else (false, e)
      | .inside (some n) =>
        let e := if n ≤ e.line then set .outside e else e
        (e.line ≤ n, e)
      | .inside none =>
        match stop with
        | .address a =>
          let (stops, e) := e.isAt a
          (true, if stops then set .outside e else e)
        | _ => (true, e)
  (holds != chosen.negated, e)

/-- Whether the line in the buffer ends the range of a command. -/
def endsRange (e : Editing) (i : Nat) (chosen : EditSelection) : Bool :=
  chosen.last.isNone || chosen.negated || e.ranges.lookup i = some .outside

/-! ## Substitution -/

/-- Text with its letters changed, and what is left of the changes: one for the next letter and one for all. -/
def changed (next all : CaseChange) (text : Octets) : Octets × CaseChange :=
  let ofAll (text : Octets) : Octets :=
    match all with
    | .upper => text.map Char.toUpper
    | .lower => text.map Char.toLower
    | _ => text
  match next, text with
  | .upperNext, c :: rest => (c.toUpper :: ofAll rest, .none)
  | .lowerNext, c :: rest => (c.toLower :: ofAll rest, .none)
  | next, text => (ofAll text, next)

/-- What a match is replaced by. -/
def replacement (pieces : List EditPiece) (whole : Octets) (groups : List (Nat × Octets)) : Octets :=
  let step (acc : Octets × CaseChange × CaseChange) (piece : EditPiece) : Octets × CaseChange × CaseChange :=
    let (done, next, all) := acc
    let add (text : Octets) : Octets × CaseChange × CaseChange :=
      let (text, next) := changed next all text
      (done ++ text, next, all)
    match piece with
    | .text chars => add chars
    | .group 0 => add whole
    | .group n => add ((groups.lookup n).getD [])
    | .change change =>
      if change = .upperNext || change = .lowerNext then (done, change, all) else (done, .none, change)
  (pieces.foldl step ([], .none, .none)).1

/-- The text with matches replaced, and whether there were any. The number of the next match and the end of the
    latest one are kept. -/
def substituted (fuel : Nat) (s : Substitution) (r : Regex) (text : Octets) (number : Nat) (latest : Option Nat)
    (p : Place) : Octets × Bool :=
  match fuel with
  | 0 => (p.rest, false)
  | fuel + 1 =>
    match r.find? s.pattern.foldsCase p with
    | none => (p.rest, false)
    | some found =>
      let skipped := (text.drop p.position).take (found.start - p.position)
      let whole := (text.drop found.start).take found.length
      let stop := found.start + found.length
      let behind : Place := { position := stop, before := if stop = 0 then none else text[stop - 1]?, rest := text.drop stop }
      if found.length = 0 then
        let counts := latest ≠ some stop
        let replaces := counts && (number = s.number || (s.all && s.number < number))
        let here := if replaces then replacement s.pieces whole found.groups else []
        let number := if counts then number + 1 else number
        if replaces && !s.all then (skipped ++ here ++ behind.rest, true)
        else
          match behind.rest with
          | [] => (skipped ++ here, replaces)
          | c :: rest =>
            let (more, any) :=
              substituted fuel s r text number none { position := stop + 1, before := some c, rest }
            (skipped ++ here ++ c :: more, replaces || any)
      else
        let replaces := number = s.number || (s.all && s.number < number)
        let here := if replaces then replacement s.pieces whole found.groups else whole
        if replaces && !s.all then (skipped ++ here ++ behind.rest, true)
        else
          let (more, any) := substituted fuel s r text (number + 1) (some stop) behind
          (skipped ++ here ++ more, replaces || any)

/-- Writes a line to a file, or prints it. -/
def writeTo (e : Editing) (file : Octets) (line : Octets) : Editing :=
  if file = "/dev/stdout".toList then e.print line
  else { e with written := (file, line ++ [e.ending]) :: e.written }

/-- Replaces matches in the buffer. -/
def substitute (e : Editing) (s : Substitution) : Editing :=
  let (r, e) := e.lookedFor s.pattern
  match r with
  | none => e
  | some r =>
    match substituted (2 * e.buffer.length + 4) s r e.buffer 1 none { rest := e.buffer } with
    | (_, false) => e
    | (text, true) =>
      let e := { e with buffer := text, replaced := true }
      let e := if s.prints then e.printBuffer else e
      match s.file with
      | some file => e.writeTo file e.buffer
      | none => e

/-! ## Commands -/

/-- The buffer with all that cannot be seen written out, in lines that are not too long. -/
def listed (text : Octets) : Octets :=
  let pieces := text.map fun c =>
    if c == '\\' then ['\\', '\\'] else if isVisible c then [c] else escaped c
  let (lines, line) := pieces.foldl (fun ((done : Octets), (line : Octets)) piece =>
    if 69 < line.length + piece.length then (done ++ line ++ ['\\', '\n'], piece) else (done, line ++ piece)) ([], [])
  lines ++ line ++ ['$']

/-- What comes of a command: the place to go on at, nothing more for this line, or the same again without a new
    line. -/
inductive Step where
  | goOn (place : Nat)
  | endOfLine (printed : Bool)
  | again

/-- The place behind a label; the end of the script for none. -/
def placeOf (e : Editing) (name : Octets) : Nat :=
  if name.isEmpty then e.commands.size
  else
    (e.commands.findIdx? fun c =>
      match c.action with
      | .label other => other = name
      | _ => false).getD e.commands.size

/-- Carries out a command at a place. -/
def act (e : Editing) (i : Nat) (c : EditCommand) : Editing × Step :=
  let next := Step.goOn (i + 1)
  match c.action with
  | .block _ | .nothing | .label _ => (e, next)
  | .insert text => (e.print text.dropLast, next)
  | .append text => ({ e with waiting := e.waiting ++ [.inl text] }, next)
  | .change text =>
    let e := if e.endsRange i c.selection then e.print text.dropLast else e
    (e, .endOfLine true)
  | .delete => (e, .endOfLine true)
  | .deleteFirst =>
    let first := e.buffer.takeWhile (· != '\n')
    if first.length = e.buffer.length then (e, .endOfLine true)
    else ({ e with buffer := e.buffer.drop (first.length + 1) }, .again)
  | .print => (e.printBuffer, next)
  | .printFirst => (e.print (e.buffer.takeWhile (· != '\n')), next)
  | .quit status quiet => ({ e with ended := some status }, .endOfLine quiet)
  | .next =>
    if e.isLast then ({ e with ended := some 0 }, .endOfLine false)
    else
      let e := if e.quiet then e else e.printBuffer
      match e.take with
      | some (line, e) => ({ e with buffer := line }, next)
      | none => (e, next)
  | .nextBehind =>
    match e.take with
    | some (line, e) => ({ e with buffer := e.buffer ++ '\n' :: line }, next)
    | none => ({ e with ended := some 0 }, .endOfLine false)
  | .hold behind => ({ e with held := if behind then e.held ++ '\n' :: e.buffer else e.buffer }, next)
  | .get behind => ({ e with buffer := if behind then e.buffer ++ '\n' :: e.held else e.held }, next)
  | .exchange => ({ e with buffer := e.held, held := e.buffer }, next)
  | .list => (e.print (listed e.buffer), next)
  | .number => (e.print (Digits.ofNat e.line), next)
  | .branch whenReplaced name =>
    match whenReplaced with
    | none => (e, .goOn (e.placeOf name))
    | some wanted =>
      if e.replaced = wanted then ({ e with replaced := false }, .goOn (e.placeOf name))
      else ({ e with replaced := false }, next)
  | .readFile file => ({ e with waiting := e.waiting ++ [.inr file] }, next)
  | .writeFile file => (e.writeTo file e.buffer, next)
  | .substitute s => (e.substitute s, next)
  | .translate pairs => ({ e with buffer := e.buffer.map fun c => (pairs.lookup c).getD c }, next)
  | .clear => ({ e with buffer := [] }, next)

/-- How many commands may be carried out before a script counts as endless. -/
def stepLimit : Nat := 1000000

/-- Carries out the script from a place on. Nothing is left when it does not end. -/
def steps (fuel : Nat) (e : Editing) (i : Nat) : Option (Nat × Editing × Step) :=
  match fuel with
  | 0 => none
  | fuel + 1 =>
    match e.commands[i]? with
    | none => some (fuel, e, .endOfLine false)
    | some c =>
      let (selected, e) := e.selects i c.selection
      if e.fault.isSome then some (fuel, e, .endOfLine true)
      else
        match selected, c.action with
        | false, .block stop => steps fuel e (stop + 1)
        | false, _ => steps fuel e (i + 1)
        | true, _ =>
          match e.act i c with
          | (e, .goOn place) => steps fuel e place
          | (e, step) => some (fuel, e, step)

/-- Prints what has waited for the end of a line. -/
def flush (contentOf : Octets → Bytes) (e : Editing) : Editing :=
  let e' := e.waiting.foldl (fun (e : Editing) item =>
    match item with
    | .inl text => e.print text.dropLast
    | .inr file =>
      let text := Octets.ofBytes (contentOf file)
      if text.isEmpty then e
      else if text.getLast? = some e.ending then e.print text.dropLast else e.print text false) e
  { e' with waiting := [] }

/-- Takes lines through the script until there are none or it says so. Nothing is left when it does not end. -/
def lines (fuel : Nat) (limit : Nat) (contentOf : Octets → Bytes) (e : Editing) (takes : Bool) : Option Editing :=
  match fuel with
  | 0 => none
  | fuel + 1 =>
    let started := if takes then (e.take).map fun (line, e) => { e with buffer := line, replaced := false } else some e
    match started with
    | none => some e
    | some e =>
      match steps limit e 0 with
      | none => none
      | some (limit, e, step) =>
        let e := match step with
          | .endOfLine printed => if printed || e.quiet then e else e.printBuffer
          | _ => e
        let e := e.flush contentOf
        if e.ended.isSome || e.fault.isSome then some e
        else
          match step with
          | .again => lines fuel limit contentOf e false
          | _ => lines fuel limit contentOf e true

end Editing

/-! ## The utility -/

/-- Says how an edit is asked for. -/
def editUsage (s : State) : State :=
  (s.mention "Usage: sed [OPTION]... \x7bscript-only-if-no-other-script\x7d [input-file]...\n\n".toList).withStatus 1

/-- What is left of an edit: what it printed, and the lines it wrote to files, which are emptied first. -/
def afterEdit (s : State) (e : Editing) : State :=
  let files := (e.written.map (·.1)).eraseDups
  files.foldl (fun s file =>
    let text := (e.written.reverse.filter (·.1 = file)).flatMap (·.2)
    if file = "/dev/stderr".toList then s.mention text
    else
      match s.writeFile file (Octets.toBytes text) with
      | .ok s => s
      | .error e => failed s 4 s!"couldn't open file {String.ofList file}: {e.wording}") s

/-- The lines of a file that is edited, or what is said when it cannot be read. -/
def editedLines (s : State) (ending : Char) (file : Octets) : State × Option (List Octets) :=
  match contentOf s 0 file with
  | .ok (bytes, s) => (s, some (linesEnded ending (Octets.ofBytes bytes)))
  | .error .isDirectory => (failed s 4 s!"read error on {String.ofList file}: {SystemError.isDirectory.wording}", none)
  | .error e => (failed s 2 s!"can't read {String.ofList file}: {e.wording}", none)

/-- Takes the lines of files through a script. -/
def sed (s : State) (args : List Octets) : State :=
  let forms : List OptionForm :=
    [⟨['n'], ["quiet", "silent"], .without⟩, .valued 'e' "expression", .valued 'f' "file",
      ⟨['E', 'r'], ["regexp-extended"], .without⟩, ⟨['i'], ["in-place"], .maybe⟩, .valued 'l' "line-length",
      .plain 's' "separate", .plain 'u' "unbuffered", .plain 'z' "null-data", .long "posix" .without,
      .long "debug" .without, .long "sandbox" .without, .long "follow-symlinks" .without]
  match Asked.ofArgs forms true args with
  | .error fault => editUsage (tell s fault.message)
  | .ok a =>
    let given : Except String (List Octets) :=
      (a.flags.filter fun f => f.1 = "e" || f.1 = "f").mapM fun (key, value) =>
        if key = "e" then .ok value
        else
          match contentOf s 0 value with
          | .ok (bytes, _) => .ok (bare (Octets.ofBytes bytes))
          | .error e => .error s!"couldn't open file {String.ofList value}: {e.wording}"
    match given with
    | .error reason => failed s 1 reason
    | .ok parts =>
      let (parts, files) := if parts.isEmpty then (a.operands.take 1, a.operands.drop 1) else (parts, a.operands)
      if parts.isEmpty then editUsage s
      else
        match EditCommand.ofTexts (a.has "E") parts with
        | .error reason => failed s 1 reason
        | .ok commands =>
          let files := if files.isEmpty then [['-']] else files
          let ending := if a.has "z" then '\x00' else '\n'
          let quiet := a.has "n" || (parts.head?.any fun p => p = ['#', 'n'] || ['#', 'n', '\n'].isPrefixOf p)
          let start : Editing := { commands := commands.toArray, quiet, ending, left := [] }
          let reading (s : State) (file : Octets) : Bytes :=
            match contentOf s 0 file with
            | .ok (bytes, _) => bytes
            | .error _ => []
          let finish (s : State) (e : Editing) : State :=
            let s := afterEdit s e
            match e.fault, e.ended with
            | some reason, _ => failed s 1 s!"-e expression #1, char 0: {reason}"
            | none, some status => if status = 0 then s else s.withStatus status
            | none, none => s
          let edit (s : State) (lines : List Octets) : Option Editing :=
            ({ start with left := lines } : Editing).lines (2 * Editing.stepLimit) Editing.stepLimit (reading s) true
          if a.has "i" || a.has "s" then
            (files.foldl (fun ((s : State), (done : Bool)) file =>
              if done then (s, done)
              else
                match editedLines s ending file with
                | (s, none) => (s, false)
                | (s, some lines) =>
                  match edit s lines with
                  | none => (s.withFlow .endless, true)
                  | some e =>
                    let text := e.printed.reverse.flatten
                    let rest := if e.ended.isSome then e.left.flatten else []
                    let s :=
                      if !a.has "i" then put s text
                      else
                        let ending := (a.value? "i").getD []
                        let s := if ending.isEmpty then s
                          else ((s.writeFile (file ++ ending) (reading s file)).toOption).getD s
                        ((s.writeFile file (Octets.toBytes (text ++ rest))).toOption).getD s
                    (finish s e, e.ended.isSome)) (s.withStatus 0, false)).1
          else
            let (s, lines) := files.foldl (fun ((s : State), (lines : List Octets)) file =>
              match editedLines s ending file with
              | (s, none) => (s, lines)
              | (s, some more) => (s, lines ++ more)) (s.withStatus 0, [])
            match edit s lines with
            | none => s.withFlow .endless
            | some e => finish (put s e.printed.reverse.flatten) e

end ProtoTree.Shell.Utility
