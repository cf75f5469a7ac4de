import ProtoTree.Shell.Expansion
import ProtoTree.Shell.Flow
import ProtoTree.Shell.Prompt
import ProtoTree.Shell.Utility

/-! # Running shell scripts

A script runs as a function from one state to the next. What may go on for
ever is cut off after a number of steps and then counts as endless.
-/

namespace ProtoTree.Shell

open Text (Bytes Octets)

/-- What a word is worked out for. -/
structure Purpose where
  /-- It makes fields. -/
  makesFields : Bool := false
  /-- It is the word of a parameter. -/
  ofParameter : Bool := false
  quoted : Bool := false
  deriving DecidableEq, Repr, Inhabited

namespace Purpose

/-- A word of a command. -/
def field : Purpose := { makesFields := true }

/-- A text that is kept in one piece. -/
def text : Purpose := {}

/-- The body of a here-document. -/
def document : Purpose := { quoted := true }

/-- The word of a parameter. -/
def parameter (p : Purpose) (quoted : Bool) : Purpose := { p with ofParameter := true, quoted }

/-- How a text in the word is split. -/
def splitting (p : Purpose) (quoted : Bool) : Splitting :=
  if p.ofParameter && !p.quoted && !quoted then .split else .kept

end Purpose

namespace Word

/-- All arguments in quotes of their own at the start of a word, and the parts behind the quotes. Without arguments
    there is no field for the quotes. -/
def quotedArguments? : Word → Option (WordPart × Word)
  | .mark :: .parameter name .whole word true :: .mark :: rest =>
    if name = ['@'] then some (.parameter name .whole word true, rest) else none
  | _ => none

/-- The first part of a word and the parts behind it; and whether these are inside quotes. -/
def first (isOpen : Bool) (part : WordPart) (rest : Word) : WordPart × Word × Bool :=
  match if isOpen then none else quotedArguments? (part :: rest) with
  | some (arguments, rest) => (arguments, rest, false)
  | none =>
    match part with
    | .mark => (.mark, rest, !isOpen)
    | part => (part, rest, isOpen)

end Word

namespace State

/-- The value of a parameter without what a pattern matches at one end. -/
def trimmedGlyphs (fromEnd longest : Bool) (pattern : Pattern) (value : List Glyph) : List Glyph :=
  let kept := (trimmed fromEnd longest pattern (Glyph.text value)).length
  if fromEnd then value.take kept else value.drop (value.length - kept)

/-- Looks for the program of a command that is to run beside others, if it is given by its name alone. -/
def searchAhead (s : State) (command : Command) : State :=
  match command with
  | .simple _ _ (word :: _) _ =>
    match Word.plain? word with
    | some name =>
      if Name.isName name && (s.functionOf? name).isNone && !Builtin.isBuiltin name then (s.search name).2 else s
    | none => s
  | _ => s

/-- The text that is worked out in front of a traced command. -/
def tracePrompt (s : State) : Octets := (s.valueOf? "PS4".toList).getD []

/-- The text that a script has printed inside a word. -/
def outputText (bytes : Bytes) : Octets :=
  dropEnd (· == '\n') ((Octets.ofBytes bytes).filter (· != '\x00'))

end State

mutual

/-- The spans of a word; `isOpen` tells whether it is inside quotes. -/
def expand (fuel : Nat) (p : Purpose) (isOpen : Bool) (s : State) (w : Word) : List Span × State :=
  match fuel, w with
  | 0, _ => ([], s.withFlow .endless)
  | _, [] => ([], s)
  | fuel + 1, part :: rest =>
    let (part, rest, isOpen) := Word.first isOpen part rest
    let (spans, s) := expandPart fuel p s part
    if !s.goesOn then (spans, s)
    else
      let (more, s) := expand fuel p isOpen s rest
      (spans ++ more, s)
termination_by structural fuel

/-- The spans of one part of a word. -/
def expandPart (fuel : Nat) (p : Purpose) (s : State) (part : WordPart) : List Span × State :=
  match fuel with
  | 0 => ([], s.withFlow .endless)
  | fuel + 1 =>
    match part with
    | .text chars quoted => ([⟨p.splitting quoted, Glyph.ofText quoted chars⟩], s)
    | .mark => ([.kept [.mark]], s)
    | .parameter name use word quoted => expandParameter fuel p s name use word (quoted || p.quoted)
    | .arithmetic expression quoted =>
      let (spans, s) := expand fuel .text false s expression
      if !s.goesOn then ([], s)
      else
        match s.evaluated (Span.text spans) with
        | (some n, s) => ([.brought (quoted || p.quoted) (Digits.ofInt n)], s)
        | (none, s) => ([], s)
    | .output .nothing _ => ([], s)
    | .output script quoted =>
      let (pipe, s) := s.reserve.issue
      let inner := s.fork.lead 1 (some (.pipe pipe))
      let done := finish fuel (run fuel ⟨false, true⟩ inner script)
      let (bytes, after) := (s.joined done).takePipe pipe
      let after := if after.goesOn then after.waitUntil (after.letGo (· == .pipe pipe)) else after
      ([.brought (quoted || p.quoted) (State.outputText bytes)],
        { after with substituted := after.status, status := s.status })
termination_by structural fuel

/-- The spans that a parameter makes. -/
def expandParameter (fuel : Nat) (p : Purpose) (s : State) (name : Octets) (use : ParameterUse) (word : Word)
    (quoted : Bool) : List Span × State :=
  match fuel with
  | 0 => ([], s.withFlow .endless)
  | fuel + 1 =>
    let value := s.parameter? name quoted p.makesFields
    let shown (s : State) (value : Option (List Glyph)) : List Span :=
      [⟨s.splittingOf name quoted, value.getD []⟩]
    let other : List Span × State := expand fuel (p.parameter quoted) false s (word.withHomes s.home? false)
    let isMissing := value.isNone && s.options.contains 'u'
    match use with
    | .bad => ([], s.abort "Bad substitution")
    | .whole => if isMissing then ([], s.abortUnset name "parameter not set") else (shown s value, s)
    | .size =>
      if isMissing then ([], s.abortUnset name "parameter not set")
      else ([.brought quoted (Digits.ofNat ((value.getD []).length))], s)
    | .unless alsoWhenEmpty => if State.lacks value alsoWhenEmpty then other else (shown s value, s)
    | .instead notWhenEmpty => if State.lacks value notWhenEmpty then ([], s) else other
    | .assign alsoWhenEmpty =>
      if !State.lacks value alsoWhenEmpty then (shown s value, s)
      else
        let (spans, s) := expand fuel .text false s (word.withHomes s.home? false)
        if !s.goesOn then ([], s)
        else
          let s := s.assign name (Span.text spans)
          if s.goesOn then (shown s (s.parameter? name quoted p.makesFields), s) else ([], s)
    | .require alsoWhenEmpty =>
      if !State.lacks value alsoWhenEmpty then (shown s value, s)
      else if word.isEmpty then
        ([], s.abortUnset name (if alsoWhenEmpty then "parameter not set or null" else "parameter not set"))
      else
        let (spans, s) := expand fuel .text false s (word.withHomes s.home? false)
        ([], if s.goesOn then s.abortUnset name (String.ofList (Span.text spans)) else s)
    | .trim fromEnd longest =>
      if isMissing then ([], s.abortUnset name "parameter not set")
      else
        match value with
        | none => ([], s)
        | some value =>
          let (spans, after) := expand fuel .text false s (word.withHomes s.home? false)
          let pattern := (Span.whole spans).pattern
          (shown s (some (State.trimmedGlyphs fromEnd longest pattern value)), after)
termination_by structural fuel

/-- The fields of words, behind those of the words in front. A word of a command may be an assignment that is not
    split. -/
def expandWords (fuel : Nat) (ofCommand : Bool) (s : State) (done : List Octets) (words : List Word) :
    List Octets × State :=
  match fuel, words with
  | 0, _ => ([], s.withFlow .endless)
  | _, [] => (done, s)
  | fuel + 1, w :: rest =>
    let assignment? := if ofCommand && (Call.ofWords s done).takesAssignments s then w.assignment? else none
    let (fields, s) :=
      match assignment? with
      | some (name, value) =>
        let (spans, s) := expand fuel .text false s (value.withHomes s.home? true)
        ([name ++ '=' :: Span.text spans], s)
      | none =>
        let (spans, s) := expand fuel .field false s (w.withHomes s.home? false)
        (if s.goesOn then s.fieldsOf spans else [], s)
    if !s.goesOn then ([], s) else expandWords fuel ofCommand s (done ++ fields) rest
termination_by structural fuel

/-- Gives variables values in order, for one command if it `owns` them; programs get to see them if they are
    `exported`. -/
def assignAll (fuel : Nat) (owns exported : Bool) (s : State) (assignments : List Word) :
    List (Octets × Octets) × State :=
  match fuel, assignments with
  | 0, _ => ([], s.withFlow .endless)
  | _, [] => ([], s)
  | fuel + 1, w :: rest =>
    match w.assignment? with
    | none => assignAll fuel owns exported s rest
    | some (name, word) =>
      let (spans, s) := expand fuel .text false s (word.withHomes s.home? true)
      if !s.goesOn then ([], s)
      else
        let value := Span.text spans
        let s := if owns then s.keepLocal name (some value) true else s.assign name value
        if !s.goesOn then ([], s)
        else
          let s := if exported then s.remark (fun v => { v with exported := true }) name else s
          let (more, s) := assignAll fuel owns exported s rest
          ((name, value) :: more, s)
termination_by structural fuel

/-- Works out the words of redirections. -/
def openings (fuel : Nat) (s : State) (redirections : List Redirection) : List Opening × State :=
  match fuel, redirections with
  | 0, _ => ([], s.withFlow .endless)
  | _, [] => ([], s)
  | fuel + 1, r :: rest =>
    let (opening, s) : Option Opening × State := match r with
      | .document descriptor number => (some (.document descriptor number), s)
      | .file descriptor mode word =>
        let (spans, s) := expand fuel .text false s (Word.withHomes s.home? false word)
        (some (.file descriptor mode (Span.text spans)), s)
      | .copy descriptor _ word =>
        let (spans, s) := expand fuel .text false s (Word.withHomes s.home? false word)
        if !s.goesOn then (none, s)
        else
          match State.descriptorNamed? (Span.text spans) with
          | some source => (some (.copy descriptor source), s)
          | none => (none, s.abort "Syntax error: Bad fd number")
    match opening with
    | none => ([], s)
    | some opening =>
      if !s.goesOn then ([], s)
      else
        let (more, s) := openings fuel s rest
        (opening :: more, s)
termination_by structural fuel

/-- Makes redirections in order; the first one that fails ends them. -/
def redirect (fuel : Nat) (s : State) (list : List Opening) : State × Bool :=
  match fuel, list with
  | 0, _ => (s.withFlow .endless, false)
  | _, [] => (s, true)
  | fuel + 1, opening :: rest =>
    match opening with
    | .file descriptor mode file =>
      match s.openPath mode file with
      | .ok (channel, s) => redirect fuel (s.lead descriptor (some channel)) rest
      | .error e => (s.fail 2 (State.openFault mode e file), false)
    | .copy descriptor source =>
      match s.copyDescriptor descriptor source with
      | (s, true) => redirect fuel s rest
      | failed => failed
    | .document descriptor number =>
      let (spans, s) := expand fuel .document false s ((s.documents.lookup number).getD [])
      if s.flow = .faulted then (s.withFlow .next, false)
      else if !s.goesOn then (s, false)
      else
        let (channel, s) := s.addSource (Octets.toBytes (Span.text spans))
        redirect fuel (s.lead descriptor (some channel)) rest
termination_by structural fuel

/-- Runs a simple command. -/
def runSimple (fuel : Nat) (standing : Standing) (s : State) (assignments words : List Word)
    (redirections : List Redirection) : State :=
  match fuel with
  | 0 => s.withFlow .endless
  | fuel + 1 =>
    let (fields, s) := expandWords fuel true s [] words
    if !s.goesOn then s
    else
      let call := Call.ofWords s fields
      let owns := !call.words.isEmpty && !call.special
      let depth := s.frames.length
      let (list, before) := openings fuel (if owns then s.pushFrame else s) redirections
      if !before.goesOn then before
      else
        match redirect fuel before list with
        | (failed, false) =>
          let failed := before.takeBack list failed
          if !failed.goesOn then failed
          else if call.special then failed.withFlow .faulted
          else failed.popFrames depth
        | (ready, true) =>
          let exports := call.keepsRedirections s && 1 < call.words.length
          let (set, ready) := assignAll fuel owns exports ready assignments
          let ready := if ready.goesOn && ready.options.contains 'x' then trace fuel before ready set call.words
            else ready
          let done := if !ready.goesOn then ready
            else if call.words.isEmpty then ready.withStatus ready.substituted
            else runCall fuel standing ready call
          let done := if done.flow = .faulted && call.isBuiltin ready && !call.special && ready.goesOn then
              (done.withFlow .next).withStatus 2
            else done
          let done := if call.keepsRedirections s then done else before.takeBack list done
          if done.isDone then done.popFrames depth else done
termination_by structural fuel

/-- Shows a command before it is run. -/
def trace (fuel : Nat) (before s : State) (set : List (Octets × Octets)) (words : List Octets) : State :=
  match fuel with
  | 0 => s.withFlow .endless
  | fuel + 1 =>
    let quiet := s.putOption 'x' false
    let (spans, shown) := expand fuel .document false quiet (Word.ofPrompt s.tracePrompt)
    if !shown.goesOn then shown
    else ({ shown with options := s.options }).trace before (Span.text spans) set words
termination_by structural fuel

/-- Runs what the words of a command ask for. -/
def runCall (fuel : Nat) (standing : Standing) (s : State) (call : Call) : State :=
  match fuel with
  | 0 => s.withFlow .endless
  | fuel + 1 =>
    let args := call.words.tail
    match call.function? s with
    | some f =>
      let inner := { s with args, choosing := {}, loops := 0, depth := s.depth + 1 }
      s.afterFunction <|
        if State.depthLimit ≤ s.depth then
          s.abort s!"Maximum function recursion depth ({State.depthLimit}) reached"
        else run fuel standing.inside inner f
    | none =>
      if call.isBuiltin s then
        let inner := { s with within := call.name ++ [':', ' '] }
        { runBuiltin fuel standing inner (String.ofList call.name) args with within := s.within }
      else
        match s.programFiles call.usual call.name with
        | (none, s) => s.fail 127 ((if call.usual then s.withUsualPath else s).missingFault call.name)
        | (some files, s) =>
          let start (s : State) : State :=
            match s.firstStartable .notFound files with
            | .ok loaded => runLoaded fuel s.forProgram call.name loaded args
            | .error e =>
              let (status, message) := State.startFault e call.name
              (s.fail status message).ended
          if standing.last && !s.hasTraps then start s.release
          else
            let s := s.reserve
            s.joined (start s.fork)
termination_by structural fuel

/-- Runs a command of the shell. -/
def runBuiltin (fuel : Nat) (standing : Standing) (s : State) (name : String) (args : List Octets) : State :=
  match fuel with
  | 0 => s.withFlow .endless
  | fuel + 1 =>
    match name, args with
    | "exec", [] => s.withStatus 0
    | "exec", program :: args =>
      match s.firstStartable .notFound (s.candidates program) with
      | .ok loaded => runLoaded fuel s.release.forProgram program loaded args
      | .error e =>
        let (status, message) := State.startFault e program
        (s.fail status message).withFlow (.leave (some status))
    | "eval", args =>
      let text := [' '].intercalate args
      if text.isEmpty then s.withStatus 0 else runText fuel standing s ⟨text, false⟩
    | ".", args =>
      s.withOptions "" args fun _ args =>
        match args with
        | [] => s.withStatus 0
        | file :: _ =>
          match s.scriptFile? file with
          | none => s.abort s!"{String.ofList file}: not found"
          | some file =>
            match s.fileScript file with
            | .error reason => s.abort reason
            | .ok text =>
              let done := runText fuel {} { s with within := file ++ [':', ' '] } text
              match done.flow with
              | .returns _ => done.withFlow .next
              | _ => done
    | name, args => (s.builtin? name args).getD (s.withStatus 127)
termination_by structural fuel

/-- Runs what a file comes down to, up to its end. -/
def runLoaded (fuel : Nat) (s : State) (name : Octets) (loaded : Loaded) (args : List Octets) : State :=
  match fuel with
  | 0 => s.withFlow .endless
  | fuel + 1 => (runUtility fuel s loaded.utility (loaded.name.getD name) (loaded.before ++ args)).ended
termination_by structural fuel

/-- Runs the program that some words ask for in the place of another one, which tells what it has done so far and
    what is said when there is no such program. -/
def runInPlace (fuel : Nat) (s : State) (words : List Octets) (refuse : SystemError → State) : State :=
  match fuel, words with
  | 0, _ => s.withFlow .endless
  | _, [] => s
  | fuel + 1, name :: args =>
    let searching := if (s.binding? "PATH".toList).isSome then s
      else s.putVariable "PATH".toList (some { value := some "/bin:/usr/bin".toList })
    match s.firstStartable .notFound (searching.candidates name) with
    | .ok loaded => runLoaded fuel s name loaded args
    | .error e => refuse e
termination_by structural fuel

/-- Runs a utility under a name of its own, with its arguments. -/
def runUtility (fuel : Nat) (s : State) (utility : String) (name : Octets) (args : List Octets) : State :=
  match fuel with
  | 0 => s.withFlow .endless
  | fuel + 1 =>
    let s := { s with name }
    match utility with
    | "sh" | "dash" =>
      match (s.newShell name).startScripts args with
      | .ok (inner, scripts) => finish fuel (runScripts fuel inner scripts)
      | .error failed => failed
    | "env" => Utility.env s args fun s words refuse => runInPlace fuel s words refuse
    | "nohup" => Utility.nohup s args fun s words refuse => runInPlace fuel s words refuse
    | "nice" => Utility.nice s args fun s words refuse => runInPlace fuel s words refuse
    | "timeout" => Utility.timeout s args fun s words refuse => runInPlace fuel s words refuse
    | "xargs" => Utility.xargs s args fun s words refuse => runInPlace fuel s words refuse
    | "find" => Utility.find s args fun s words refuse => runInPlace fuel s words refuse
    | utility => (Utility.run? s utility args).getD (s.runHost args)
termination_by structural fuel

/-- Runs scripts one after another. -/
def runScripts (fuel : Nat) (s : State) (scripts : List State.ScriptText) : State :=
  match fuel, scripts with
  | 0, _ => s.withFlow .endless
  | _, [] => s
  | fuel + 1, script :: rest =>
    let s := runText fuel {} s script
    if s.goesOn then runScripts fuel s rest else s
termination_by structural fuel

/-- Runs the text of a script. -/
def runText (fuel : Nat) (standing : Standing) (s : State) (script : State.ScriptText) : State :=
  match fuel with
  | 0 => s.withFlow .endless
  | fuel + 1 => runReader fuel standing.inside script.echoes false s (Reader.ofText 1 script.text)
termination_by structural fuel

/-- Runs the commands of a script as they are read; `ran` tells whether there was one before. -/
def runReader (fuel : Nat) (standing : Standing) (echoes ran : Bool) (s : State) (reader : Reader) : State :=
  match fuel with
  | 0 => s.withFlow .endless
  | fuel + 1 =>
    let reader := { reader with aliases := s.aliases, documents := [], documentCount := s.documentCount }
    match Grammar.command? reader with
    | .error fault => { s with line := fault.line }.abort s!"Syntax error: {fault.message}"
    | .ok (command, after) =>
      let s := if echoes && s.options.contains 'v' then s.mention (reader.takenBy after) else s
      let s := { s with documents := after.documents ++ s.documents, documentCount := after.documentCount }
      match command with
      | none => if ran then s else s.withStatus 0
      | some .nothing => runReader fuel standing echoes ran s after
      | some command =>
        let s := run fuel standing s command
        if s.goesOn then runReader fuel standing echoes true s after else s
termination_by structural fuel

/-- Lets a shell end, after the action it has for that. -/
def finish (fuel : Nat) (s : State) : State :=
  match fuel with
  | 0 => s.withFlow .endless
  | fuel + 1 =>
    match s.flow with
    | .killed _ | .endless | .replaced => s.ended
    | _ =>
      match s.traps.lookup 0 with
      | none | some [] => s.ended
      | some action =>
        let ready := { s with status := s.outcome.status, flow := .next, loops := 0 }
        let ready := { ready with traps := s.traps.filter fun t => t.1 ≠ 0 }
        (ready.afterLastAction (runText fuel {} ready ⟨action, false⟩)).ended
termination_by structural fuel

/-- Lets the signals that have arrived take effect. -/
def settle (fuel : Nat) (s : State) : State :=
  match fuel with
  | 0 => s.withFlow .endless
  | fuel + 1 =>
    if !s.goesOn then s
    else
      let (signals, s) := s.takeSignals
      receive fuel s signals
termination_by structural fuel

/-- Lets signals take effect, one after another. -/
def receive (fuel : Nat) (s : State) (signals : List Nat) : State :=
  match fuel, signals with
  | 0, _ => s.withFlow .endless
  | _, [] => s
  | fuel + 1, signal :: rest =>
    if Signal.isCaught signal && s.ignores signal then receive fuel s rest
    else
      match if Signal.isCaught signal then s.traps.lookup signal else none with
      | some action =>
        let done := s.afterAction (runText fuel {} s ⟨action, false⟩)
        if done.goesOn then receive fuel done rest else done.postpone rest
      | none =>
        match Signal.effect signal with
        | .next => receive fuel s rest
        | flow => s.withFlow flow
termination_by structural fuel

/-- Runs a command. -/
def run (fuel : Nat) (standing : Standing) (s : State) (command : Command) : State :=
  match fuel with
  | 0 => s.withFlow .endless
  | fuel + 1 =>
    if s.options.contains 'n' then s
    else
      match command with
      | .nothing => s
      | .sequence first second =>
        let s := run fuel standing.inside s first
        if s.goesOn then run fuel standing s second else s
      | .andThen first second =>
        let s := run fuel .condition s first
        if s.goesOn && s.status == 0 then run fuel standing s second else s
      | .orElse first second =>
        let s := run fuel .condition s first
        if s.goesOn && s.status != 0 then run fuel standing s second else s
      | .negated command =>
        let s := run fuel .condition s command
        if s.isDone then s.withStatus (if s.status == 0 then 1 else 0) else s
      | .choice condition thenDo elseDo =>
        let s := run fuel .condition s condition
        if !s.goesOn then s
        else if s.status == 0 then run fuel standing s thenDo
        else
          match elseDo with
          | .nothing => s.withStatus 0
          | elseDo => run fuel standing s elseDo
      | .loop whileHolds condition body =>
        let inner := { s with loops := s.loops + 1 }
        let done := runLoop fuel standing.tested whileHolds condition body inner 0
        { done with loops := s.loops }
      | .each line name words body =>
        let s := { s with line }
        let (fields, s) := match words with
          | some words => expandWords fuel false s [] words
          | none => (s.args, s)
        if !s.goesOn then s
        else
          let inner := { s with loops := s.loops + 1 }
          let done := runEach fuel standing.tested name body inner 0 fields
          { done with loops := s.loops }
      | .select line subject branches =>
        let s := { s with line }
        let (spans, s) := expand fuel .text false s (Word.withHomes s.home? false subject)
        if !s.goesOn then s else select fuel standing s (Span.text spans) branches
      | .define name body =>
        { s with functions := (name, body) :: s.functions.filter (fun f => f.1 ≠ name), status := 0 }
      | .group line body redirections =>
        let (list, before) := openings fuel { s with line } redirections
        if !before.goesOn then before
        else
          match redirect fuel before list with
          | (ready, true) => before.takeBack list (run fuel standing.inside ready body)
          | (failed, false) =>
            let failed := before.takeBack list failed
            if failed.goesOn then settle fuel (failed.afterCommand standing) else failed
      | .subshell line body redirections =>
        let (list, before) := openings fuel { s with line } redirections
        if !before.goesOn then before
        else if standing.last && !before.hasTraps then enter fuel standing before list body
        else
          let s := before.reserve
          settle fuel ((s.joined (enter fuel standing s.fork list body)).afterCommand standing)
      | .background command =>
        let (number, s) := s.takeNumber
        settle fuel (s.withJob number (finish fuel (run fuel ⟨false, true⟩ s.forkBeside command)))
      | .pipe commands =>
        let (done, outcomes) := runPipe fuel standing s.reserve s commands
        let done := outcomes.foldl State.report done
        settle fuel (done.afterCommand standing)
      | .simple line assignments words redirections =>
        let done := runSimple fuel standing { s with line, substituted := 0 } assignments words redirections
        settle fuel (done.afterCommand standing)
termination_by structural fuel

/-- Runs a command in a process of its own, up to its end. -/
def enter (fuel : Nat) (standing : Standing) (s : State) (list : List Opening) (body : Command) : State :=
  match fuel with
  | 0 => s.withFlow .endless
  | fuel + 1 =>
    match redirect fuel s list with
    | (ready, true) => finish fuel (run fuel { standing with last := true } ready body)
    | (failed, false) => finish fuel (if failed.goesOn then failed.withFlow .faulted else failed)
termination_by structural fuel

/-- Runs commands of which each one reads what the one before it prints; `s` is what they start from, and `parent` the
    process that waits for them. Tells how all but the last one ended. -/
def runPipe (fuel : Nat) (standing : Standing) (s parent : State) (commands : List Command) :
    State × List Outcome :=
  match fuel, commands with
  | 0, _ => (s.withFlow .endless, [])
  | _, [] => (s, [])
  | fuel + 1, [last] =>
    let s := s.searchAhead last
    let done := s.joined (finish fuel (run fuel { standing with last := true } s.fork last))
    ({ done with descriptors := parent.descriptors }, [])
  | fuel + 1, first :: rest =>
    let start := s.world.time
    let (pipe, s) := (s.searchAhead first).issue
    let writer := s.fork.lead 1 (some (.pipe pipe))
    let writer := finish fuel (run fuel { standing with last := true } writer first)
    let (bytes, writer) := writer.takePipe pipe
    let finish? := if writer.flow = .endless then none else writer.letGo (· == .pipe pipe)
    let s := (((s.backFrom writer).withFlow s.flow).withStatus s.status).noticeEnd
    let s := { s with world := { s.world with time := start, gone := writer.process :: s.world.gone } }
    let (channel, s) := s.addSource bytes
    let (reader, outcomes) := runPipe fuel standing (s.lead 0 (some channel)) parent rest
    let unread := ((reader.lead 0 (some channel)).unread 0).getD []
    let reader := if !reader.goesOn || (finish?.isNone && !unread.isEmpty) then reader
      else reader.waitUntil finish?
    (reader, writer.outcome :: outcomes)
termination_by structural fuel

/-- Runs the first branch with a pattern that the subject matches. -/
def select (fuel : Nat) (standing : Standing) (s : State) (subject : Octets)
    (branches : List (List Word × Command)) : State :=
  match fuel, branches with
  | 0, _ => s.withFlow .endless
  | _, [] => s.withStatus 0
  | fuel + 1, ([], _) :: rest => select fuel standing s subject rest
  | fuel + 1, (pattern :: more, body) :: rest =>
    let (spans, s) := expand fuel .text false s (pattern.withHomes s.home? false)
    if !s.goesOn then s
    else if (Span.whole spans).pattern.accepts subject then
      match body with
      | .nothing => s.withStatus 0
      | body => run fuel standing s body
    else select fuel standing s subject ((more, body) :: rest)
termination_by structural fuel

/-- Runs a loop; `last` is the status of its body so far. -/
def runLoop (fuel : Nat) (tested whileHolds : Bool) (condition body : Command) (s : State) (last : Nat) :
    State :=
  match fuel with
  | 0 => s.withFlow .endless
  | fuel + 1 =>
    let checked := run fuel .condition s condition
    let leaves := match checked.flow with
      | .breakLoops _ | .continueLoops _ => true
      | _ => false
    let (after, again) := checked.afterRound
    if leaves then
      let after := after.withStatus last
      if again then runLoop fuel tested whileHolds condition body after last else after
    else if !again then after
    else if !(after.status == 0) == whileHolds then after.withStatus last
    else
      let (done, again) := (run fuel ⟨tested, false⟩ after body).afterRound
      if again then runLoop fuel tested whileHolds condition body done done.status else done
termination_by structural fuel

/-- Runs a body once for each field; `last` is its status so far. -/
def runEach (fuel : Nat) (tested : Bool) (name : Octets) (body : Command) (s : State) (last : Nat)
    (fields : List Octets) : State :=
  match fuel, fields with
  | 0, _ => s.withFlow .endless
  | _, [] => s.withStatus last
  | fuel + 1, field :: rest =>
    let s := s.assign name field
    if !s.goesOn then s
    else
      let (done, again) := (run fuel ⟨tested, false⟩ s body).afterRound
      if again then runEach fuel tested name body done done.status rest else done
termination_by structural fuel

end

/-- How many steps a script may take before it counts as endless. -/
def stepLimit : Nat := 200000

end ProtoTree.Shell
