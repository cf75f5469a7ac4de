import ProtoTree.Shell.Builtin.Basic

/-! # What names stand for

Keywords, aliases, functions, commands of the shell and programs, in the order
in which a name is looked for among them.
-/

namespace ProtoTree.Shell

open Text (Octets)

/-- What a name stands for. -/
inductive Meaning where
  | keyword
  | replacement (text : Octets)
  | function
  | builtin
  /-- A program, and whether it was found before. -/
  | program (file : Octets) (tracked : Bool)
  deriving DecidableEq, Repr, Inhabited

namespace Meaning

/-- A meaning in words. -/
def words (name : Octets) : Meaning → Octets
  | keyword => "is a shell keyword".toList
  | replacement text => "is an alias for ".toList ++ text
  | function => "is a shell function".toList
  | builtin => (if Builtin.isSpecial name then "is a special shell builtin" else "is a shell builtin").toList
  | program file tracked => (if tracked then "is a tracked alias for " else "is ").toList ++ file

/-- A meaning as it could be written in a script. -/
def short (name : Octets) : Meaning → Octets
  | replacement text => "alias ".toList ++ name ++ '=' :: Builtin.singleQuoted text
  | program file _ => file
  | _ => name

end Meaning

namespace State

open Builtin

/-- The search path that finds the programs of the system. -/
def usualPath : Octets := "/usr/local/sbin:/usr/local/bin:/usr/sbin:/usr/bin:/sbin:/bin".toList

/-- The file at a place in the search path. -/
def fileAt (s : State) (name : Octets) (place : Nat) : Octets := ((s.candidates name)[place]?).getD name

/-- What a name stands for. A program that is looked for is tracked, unless the path is the `usual` one. -/
def meaning (s : State) (usual : Bool) (name : Octets) : Option Meaning × State :=
  if Token.reserved.contains (String.ofList name) then (some .keyword, s)
  else
    match s.aliases.lookup name with
    | some text => (some (.replacement text), s)
    | none =>
      if s.functions.any (·.1 = name) then (some .function, s)
      else if isBuiltin name then (some .builtin, s)
      else if name.contains '/' then
        (if (s.entryOf? name true).isOk then some (.program name false) else none, s)
      else
        match s.tracked.find? (·.name = name) with
        | some t => (some (.program (s.fileAt name t.place) true), s)
        | none =>
          if usual then
            let inner := s.putVariable "PATH".toList (some { value := usualPath })
            ((inner.findProgram? name).map fun file => .program file false, s)
          else
            let (place, s) := s.search name
            (place.map fun place => .program (s.fileAt name place) false, s)

/-- Tells what a name stands for, in words or not. The status is 127 when it stands for nothing. -/
def tellMeaning (s : State) (usual inWords : Bool) (name : Octets) : State :=
  match s.meaning usual name with
  | (some m, s) => s.print ((if inWords then name ++ ' ' :: m.words name else m.short name) ++ ['\n'])
  | (none, s) => (s.print (if inWords then name ++ ": not found\n".toList else [])).withStatus 127

/-- Tells in words what names stand for. -/
def tellMeanings (s : State) (names : List Octets) : State :=
  names.foldl (fun s name =>
    let before := s.status
    let s := s.tellMeaning false true name
    s.withStatus (before ||| s.status)) (s.withStatus 0)

/-- Tells what the first of some names stands for, as the options ask. -/
def describeCommand (s : State) (args : List Octets) : State :=
  s.withOptions "pvV" args fun flags names =>
    let has (letter : Char) : Bool := flags.any (·.1 == letter)
    match names with
    | name :: _ => if has 'v' || has 'V' then s.tellMeaning (has 'p') (has 'V') name else s.withStatus 0
    | [] => s.withStatus 0

/-- The programs that are tracked, or looks for programs to track them. -/
def trackPrograms (s : State) (args : List Octets) : State :=
  s.withOptions "r" args fun flags names =>
    if !flags.isEmpty then { s with tracked := [], status := 0 }
    else if names.isEmpty then
      s.print <| (inRows programRows (·.name) s.tracked).flatMap fun t =>
        s.fileAt t.name t.place ++ (if t.stale then ['*', '\n'] else ['\n'])
    else
      names.foldl (fun s name =>
        if name.contains '/' || s.functions.any (·.1 = name) || isBuiltin name then s
        else
          match (s.untrack name).search name with
          | (some _, s) => s
          | (none, s) => s.fail 1 s!"{String.ofList name}: not found") (s.withStatus 0)

/-- An alias as the command that makes it. -/
def shownAlias (name text : Octets) : Octets := name ++ '=' :: singleQuoted text ++ ['\n']

/-- Sets aliases, or shows those that are named or all. -/
def setAliases (s : State) (args : List Octets) : State :=
  if args.isEmpty then
    s.print ((inRows aliasRows (·.1) s.aliases).flatMap fun (name, text) => shownAlias name text)
  else
    let (s, shown, missing) := args.foldl (fun (s, shown, missing) arg =>
      let name := arg.take 1 ++ (arg.drop 1).takeWhile (· != '=')
      if name.length < arg.length then
        let text := arg.drop (name.length + 1)
        let aliases :=
          if s.aliases.any (·.1 = name) then s.aliases.map fun a => if a.1 = name then (name, text) else a
          else s.aliases ++ [(name, text)]
        ({ s with aliases }, shown, missing)
      else
        match s.aliases.lookup name with
        | some text => (s, shown ++ shownAlias name text, missing)
        | none => (s.mention s!"alias: {String.ofList name} not found\n".toList, shown, true))
      (s, ([] : Octets), false)
    let s := s.print shown
    if missing then s.withStatus (s.status ||| 1) else s

/-- Takes aliases away. -/
def unsetAliases (s : State) (args : List Octets) : State :=
  s.withOptions "a" args fun flags names =>
    if !flags.isEmpty then { s with aliases := [], status := 0 }
    else
      names.foldl (fun s name =>
        if s.aliases.any (·.1 = name) then { s with aliases := s.aliases.filter fun a => a.1 ≠ name }
        else (s.mention s!"unalias: {String.ofList name} not found\n".toList).withStatus 1) (s.withStatus 0)

end State

end ProtoTree.Shell
