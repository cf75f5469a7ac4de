import ProtoTree.Shell.Token

/-! # Grammar of shell scripts

A script is read command by command: what stands before a line that makes no
sense is run. Words are reserved only where a command may start or end.
-/

namespace ProtoTree.Shell

open Text (Octets)

namespace Grammar

open Token (Wanted shown inQuotes readDocuments)
open Reader (fault keep)

/-- The commands that no function can be named like. -/
def specialCommands : List String :=
  [".", ":", "break", "continue", "eval", "exec", "exit", "export", "readonly", "return", "set",
    "shift", "times", "trap", "unset"]

/-- Whether a list of commands ends before a token. -/
def endsList : Token → Bool
  | .finish => true
  | .operator text => text = ")" || text = ";;"
  | .keyword name =>
    ["do", "done", "elif", "else", "esac", "fi", "then", "\x7d"].contains name
  | _ => false

/-- What is wrong when a token is not the one that is expected. -/
def unexpected {α : Type} (t : Token) (expected : Option String) : Reading α :=
  fault <| shown t ++ " unexpected"
    ++ expected.elim "" fun text => " (expecting " ++ text ++ ")"

def isKeyword (t : Token) (name : String) : Bool :=
  match t with
  | .keyword found => found = name
  | _ => false

def isOperator (t : Token) (text : String) : Bool :=
  match t with
  | .operator found => found = text
  | _ => false

/-- What may stand where a command starts. -/
def atStart : Wanted := { keywords := true, aliases := true }

/-- What may stand where a command starts on a line of its own. -/
def atStartOfLine : Wanted := { newlines := true, keywords := true, aliases := true }

/-- Where a list of commands stands. -/
inductive ListPlace where
  /-- On a line of its own. -/
  | line
  /-- Inside a command; there has to be one. -/
  | body
  /-- Where there may be none. -/
  | script
  deriving DecidableEq, Inhabited

def joined (first : Option Command) (second : Command) : Command :=
  match first with
  | some first => .sequence first second
  | none => second

/-- A word that names a loop's variable. -/
def variableName? : Token → Option Octets
  | .word w => w.plain?.filter Name.isName
  | .keyword name => if Name.isName name.toList then some name.toList else none
  | _ => none

/-- Puts redirections behind a command. -/
def redirected (line : Nat) (redirections : List Redirection) : Command → Command
  | .subshell line body _ => .subshell line body redirections
  | command => if redirections.isEmpty then command else .group line command redirections

/-- The parts of a simple command, in reverse. -/
structure Simple where
  assignments : List Word := []
  words : List Word := []
  redirections : List Redirection := []

mutual

/-- How tokens are read: with the scripts inside them. -/
def token (fuel : Nat) (wanted : Wanted) : Reading Token :=
  match fuel with
  | 0 => fault "script too long"
  | fuel + 1 => do Token.next Reader.plenty ⟨script fuel, none, false⟩ wanted
termination_by structural fuel

/-- A script inside a word. -/
def script (fuel : Nat) (closed : Bool) : Reading Command :=
  match fuel with
  | 0 => fault "script too long"
  | fuel + 1 => do
    let (command, _) ← list fuel .script none
    if closed then
      let t ← token fuel {}
      unless isOperator t ")" do unexpected t (some (inQuotes ")"))
    return command
termination_by structural fuel

/-- Reads the here-documents that were asked for. -/
def documents (fuel : Nat) : Reading Unit :=
  match fuel with
  | 0 => fault "script too long"
  | fuel + 1 => readDocuments ⟨script fuel, none, false⟩
termination_by structural fuel

/-- Commands one after another; `first` are those read so far. Tells whether the text has ended before there was a
    command. -/
def list (fuel : Nat) (place : ListPlace) (first : Option Command) : Reading (Command × Bool) :=
  match fuel with
  | 0 => fault "script too long"
  | fuel + 1 => do
    let t ← token fuel { atStart with newlines := place ≠ .line }
    match t with
    | .newline =>
      documents fuel
      return (first.getD .nothing, false)
    | .finish =>
      documents fuel
      keep .finish
      return (first.getD .nothing, first.isNone && place = .line)
    | t =>
      keep t
      if place ≠ .line && (place = .script || first.isSome) && endsList t then
        return (first.getD .nothing, false)
      let next ← chain fuel
      let t ← token fuel {}
      if isOperator t "&" then list fuel place (some (joined first (.background next)))
      else
        let all := joined first next
        match t with
        | .finish =>
          documents fuel
          keep .finish
          return (all, false)
        | .newline =>
          keep .newline
          list fuel place (some all)
        | t =>
          if isOperator t ";" then list fuel place (some all)
          else
            if place = .line then unexpected t none
            keep t
            return (all, false)
termination_by structural fuel

/-- Commands inside another one. -/
def body (fuel : Nat) : Reading Command :=
  match fuel with
  | 0 => fault "script too long"
  | fuel + 1 => do return (← list fuel .body none).1
termination_by structural fuel

/-- Pipelines joined by `&&` and `||`. -/
def chain (fuel : Nat) : Reading Command :=
  match fuel with
  | 0 => fault "script too long"
  | fuel + 1 => do chainFrom fuel (← pipeline fuel {})
termination_by structural fuel

/-- What joins a first pipeline. -/
def chainFrom (fuel : Nat) (first : Command) : Reading Command :=
  match fuel with
  | 0 => fault "script too long"
  | fuel + 1 => do
    let t ← token fuel {}
    if isOperator t "&&" then chainFrom fuel (.andThen first (← pipeline fuel atStartOfLine))
    else if isOperator t "||" then chainFrom fuel (.orElse first (← pipeline fuel atStartOfLine))
    else
      keep t
      return first
termination_by structural fuel

/-- Commands joined by `|`, perhaps negated. -/
def pipeline (fuel : Nat) (wanted : Wanted) : Reading Command :=
  match fuel with
  | 0 => fault "script too long"
  | fuel + 1 => do
    let t ← token fuel wanted
    let negated := isKeyword t "!"
    unless negated do keep t
    let first ← command fuel (if negated then atStart else {})
    let more ← piped fuel
    let all := if more.isEmpty then first else .pipe (first :: more)
    return if negated then .negated all else all
termination_by structural fuel

/-- The commands after each `|`. -/
def piped (fuel : Nat) : Reading (List Command) :=
  match fuel with
  | 0 => fault "script too long"
  | fuel + 1 => do
    let t ← token fuel {}
    if isOperator t "|" then
      let next ← command fuel atStartOfLine
      return next :: (← piped fuel)
    else
      keep t
      return []
termination_by structural fuel

/-- A token that has to be a certain keyword. -/
def expect (fuel : Nat) (wanted : Wanted) (name : String) : Reading Unit :=
  match fuel with
  | 0 => fault "script too long"
  | fuel + 1 => do
    let t ← token fuel wanted
    unless isKeyword t name do unexpected t (some (inQuotes name))
termination_by structural fuel

/-- One command. -/
def command (fuel : Nat) (wanted : Wanted) : Reading Command :=
  match fuel with
  | 0 => fault "script too long"
  | fuel + 1 => do
    let line := (← get).line
    let t ← token fuel wanted
    let enclosed (c : Command) : Reading Command := do
      return redirected line (← redirections fuel) c
    match t with
    | .word _ | .redirect .. =>
      keep t
      simple fuel
    | .operator "(" =>
      let inner ← body fuel
      let t ← token fuel {}
      unless isOperator t ")" do unexpected t (some (inQuotes ")"))
      enclosed (.subshell line inner [])
    | .keyword "\x7b" =>
      let inner ← body fuel
      expect fuel {} "\x7d"
      enclosed inner
    | .keyword "if" =>
      let inner ← choice fuel
      expect fuel {} "fi"
      enclosed inner
    | .keyword "while" => enclosed (← loop fuel true)
    | .keyword "until" => enclosed (← loop fuel false)
    | .keyword "for" => enclosed (← each fuel line)
    | .keyword "case" => enclosed (← select fuel line)
    | t => unexpected t none
termination_by structural fuel

/-- A choice after its `if` or `elif`, up to its `fi`. -/
def choice (fuel : Nat) : Reading Command :=
  match fuel with
  | 0 => fault "script too long"
  | fuel + 1 => do
    let condition ← body fuel
    expect fuel {} "then"
    let thenDo ← body fuel
    let t ← token fuel {}
    if isKeyword t "elif" then return .choice condition thenDo (← choice fuel)
    else if isKeyword t "else" then return .choice condition thenDo (← body fuel)
    else
      keep t
      return .choice condition thenDo .nothing
termination_by structural fuel

/-- A loop after its first word. -/
def loop (fuel : Nat) (whileHolds : Bool) : Reading Command :=
  match fuel with
  | 0 => fault "script too long"
  | fuel + 1 => do
    let condition ← body fuel
    expect fuel {} "do"
    let inner ← body fuel
    expect fuel {} "done"
    return .loop whileHolds condition inner
termination_by structural fuel

/-- A loop over words after its `for`. -/
def each (fuel line : Nat) : Reading Command :=
  match fuel with
  | 0 => fault "script too long"
  | fuel + 1 => do
    match variableName? (← token fuel {}) with
    | none => fault "Bad for loop variable"
    | some name =>
      let t ← token fuel atStartOfLine
      let words ←
        if isKeyword t "in" then do pure (some (← wordList fuel))
        else do
          unless isOperator t ";" do keep t
          pure none
      expect fuel atStartOfLine "do"
      let inner ← body fuel
      expect fuel {} "done"
      return .each line name words inner
termination_by structural fuel

/-- The words up to the end of a line. -/
def wordList (fuel : Nat) : Reading (List Word) :=
  match fuel with
  | 0 => fault "script too long"
  | fuel + 1 => do
    match ← token fuel {} with
    | .word w => return w :: (← wordList fuel)
    | .newline | .operator ";" => return []
    | t => unexpected t none
termination_by structural fuel

/-- A choice by patterns after its `case`. -/
def select (fuel line : Nat) : Reading Command :=
  match fuel with
  | 0 => fault "script too long"
  | fuel + 1 => do
    match ← token fuel {} with
    | .word subject =>
      expect fuel atStartOfLine "in"
      return .select line subject (← branches fuel)
    | t => unexpected t (some "word")
termination_by structural fuel

/-- Branches with their patterns, up to `esac`. -/
def branches (fuel : Nat) : Reading (List (List Word × Command)) :=
  match fuel with
  | 0 => fault "script too long"
  | fuel + 1 => do
    let wanted : Wanted := { newlines := true, keywords := true }
    let t ← token fuel wanted
    if isKeyword t "esac" then return []
    let t ← if isOperator t "(" then token fuel {} else pure t
    let words ← patterns fuel t
    let (inner, _) ← list fuel .script none
    let t ← token fuel wanted
    if isKeyword t "esac" then return [(words, inner)]
    unless isOperator t ";;" do unexpected t (some (inQuotes ";;"))
    return (words, inner) :: (← branches fuel)
termination_by structural fuel

/-- Patterns up to the parenthesis after them; the first one starts with a token. -/
def patterns (fuel : Nat) (t : Token) : Reading (List Word) :=
  match fuel with
  | 0 => fault "script too long"
  | fuel + 1 => do
    let pattern : Word := match t with
      | .word w => w
      | .keyword name => [.text name.toList false]
      | _ => []
    let after ← token fuel {}
    if isOperator after "|" then return pattern :: (← patterns fuel (← token fuel {}))
    unless isOperator after ")" do unexpected after (some (inQuotes ")"))
    return [pattern]
termination_by structural fuel

/-- Redirections behind a command. -/
def redirections (fuel : Nat) : Reading (List Redirection) :=
  match fuel with
  | 0 => fault "script too long"
  | fuel + 1 => do
    match ← token fuel atStart with
    | .redirect descriptor operator =>
      let r ← redirection fuel descriptor operator
      return r :: (← redirections fuel)
    | t =>
      keep t
      return []
termination_by structural fuel

/-- A redirection with the word after its operator. -/
def redirection (fuel descriptor : Nat) (operator : RedirectOperator) : Reading Redirection :=
  match fuel with
  | 0 => fault "script too long"
  | fuel + 1 => do
    let isDocument := match operator with
      | .document _ => true
      | _ => false
    match ← token fuel { literal := isDocument } with
    | .word w =>
      match operator with
      | .file mode => return .file descriptor mode w
      | .copy toRead => return .copy descriptor toRead w
      | .document stripsTabs =>
        let r ← get
        let p : Pending := ⟨r.documentCount, ⟨w.literal, stripsTabs⟩, w.hasQuotes⟩
        set { r with documentCount := r.documentCount + 1, pending := r.pending ++ [p] }
        return .document descriptor p.number
    | t => unexpected t none
termination_by structural fuel

/-- A simple command, or a function. -/
def simple (fuel : Nat) : Reading Command :=
  match fuel with
  | 0 => fault "script too long"
  | fuel + 1 => do
    let line := (← get).line
    let parts ← simpleParts fuel true {}
    let t ← token fuel {}
    match parts, t with
    | ⟨[], [w], []⟩, .operator "(" => function fuel w
    | parts, t =>
      keep t
      return .simple line parts.assignments.reverse parts.words.reverse parts.redirections.reverse
termination_by structural fuel

/-- A function after the parenthesis behind its name. -/
def function (fuel : Nat) (w : Word) : Reading Command :=
  match fuel with
  | 0 => fault "script too long"
  | fuel + 1 => do
    let t ← token fuel {}
    unless isOperator t ")" do unexpected t (some (inQuotes ")"))
    match w.plain?.filter Name.isName with
    | none => fault "Bad function name"
    | some name =>
      if specialCommands.contains (String.ofList name) then
        fault "Bad function name"
      return .define name (← command fuel atStartOfLine)
termination_by structural fuel

/-- The parts of a simple command; assignments come before the first word that is none. -/
def simpleParts (fuel : Nat) (mayAssign : Bool) (read : Simple) : Reading Simple :=
  match fuel with
  | 0 => fault "script too long"
  | fuel + 1 => do
    match ← token fuel { aliases := mayAssign } with
    | .word w =>
      if mayAssign && w.assignment?.isSome then
        simpleParts fuel true { read with assignments := w :: read.assignments }
      else simpleParts fuel false { read with words := w :: read.words }
    | .redirect descriptor operator =>
      let r ← redirection fuel descriptor operator
      simpleParts fuel mayAssign { read with redirections := r :: read.redirections }
    | t =>
      keep t
      return read
termination_by structural fuel

end

/-- The next complete command; none at the end of the text. -/
def command? : Reading (Option Command) := do
  modify fun r => { r with kept := none, pending := [], aliasNext := false }
  let (command, ended) ← list Reader.plenty .line none
  return if ended then none else some command

end Grammar

end ProtoTree.Shell
