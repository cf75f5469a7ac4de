import ProtoTree.Shell.Flow
import ProtoTree.Shell.Utility.Basic

/-! # Running other programs

Utilities that start a program in their place: with another environment, with
signals ignored, or for a limited time.
-/

namespace ProtoTree.Shell.Utility

open Text (Octets)

/-- Runs the program that words ask for in the place of the running one; the last argument tells what is done when
    there is none. -/
abbrev Runner := State → List Octets → (SystemError → State) → State

/-- The status for a program that cannot be started. -/
def startStatus (e : SystemError) : Nat := if e = .notFound then 127 else 126

/-- The variables that are set by the words in front of a program, and the program's words. -/
def takeVariables (s : State) : List Octets → State × List Octets
  | word :: rest =>
    if word.contains '=' then
      let name := word.takeWhile (· != '=')
      let value := word.drop (name.length + 1)
      takeVariables (s.putVariable name (some { value := some value, exported := true })) rest
    else (s, word :: rest)
  | [] => (s, [])

/-- Runs a program with another environment, or prints the environment. -/
def env (s : State) (args : List Octets) (run : Runner) : State :=
  let forms : List OptionForm :=
    [.plain 'i' "ignore-environment", .valued 'u' "unset", .plain '0' "null", .valued 'C' "chdir",
      .valued 'S' "split-string", .plain 'v' "debug"]
  withLeadingArgs s 125 forms args fun a =>
    let alone := a.operands.head? = some ['-']
    let operands := if alone then a.operands.tail else a.operands
    let s := if a.has "i" || alone then { s with bindings := [] } else s
    let s := a.flags.foldl (fun (s : State) (key, name) => if key = "u" then s.putVariable name none else s) s
    let (s, words) := takeVariables s operands
    let refuse (e : SystemError) : State :=
      let name := words.headD []
      let told := tell s s!"{cited name}: {e.wording}"
      let told := if e = .notFound && name.contains ' ' then
          tell told "use -[v]S to pass options in shebang lines"
        else told
      told.withStatus (startStatus e)
    if words.isEmpty then
      if a.has "C" then misused s "must specify command with --chdir (-C)" 125
      else
        let ending := if a.has "0" then '\x00' else '\n'
        put (s.withStatus 0) (s.bindings.flatMap fun (name, v) => name ++ '=' :: v.value.getD [] ++ [ending])
    else if a.has "0" then misused s "cannot specify --null (-0) with command" 125
    else
      match a.value? "C" with
      | none => run s words refuse
      | some dir =>
        match s.disk.enter (State.path dir) with
        | .ok disk => run (s.withDisk disk) words refuse
        | .error e => failed s 125 s!"cannot change directory to {quoted dir}: {e.wording}"

/-- Runs a program that goes on when its terminal is closed. -/
def nohup (s : State) (args : List Octets) (run : Runner) : State :=
  withLeadingArgs s 125 [] args fun a =>
    if a.operands.isEmpty then misused s "missing operand" 125
    else
      run { s with ignored := 1 :: s.ignored } a.operands fun e =>
        failed s (startStatus e) s!"failed to run command {cited (a.operands.headD [])}: {e.wording}"

/-- Runs a program that gives way to others, or tells how much the running one does. -/
def nice (s : State) (args : List Octets) (run : Runner) : State :=
  withLeadingArgs s 125 [.valued 'n' "adjustment"] args fun a =>
    if a.operands.isEmpty then
      if a.has "n" then misused s "a command must be given with an adjustment" 125
      else put (s.withStatus 0) ['0', '\n']
    else
      match (a.value? "n").filter fun text => (Arithmetic.readInt? text).isNone with
      | some bad => failed s 125 s!"invalid adjustment {cited bad}"
      | none =>
        run s a.operands fun e => failed s (startStatus e) s!"{cited (a.operands.headD [])}: {e.wording}"

/-- The nanoseconds in a unit of time. -/
def unitOf? : Octets → Option Nat
  | [] | ['s'] => some 1000000000
  | ['m'] => some 60000000000
  | ['h'] => some 3600000000000
  | ['d'] => some 86400000000000
  | _ => none

/-- The nanoseconds of a number with decimals and a unit; none inside when they never end. -/
def duration? (cs : Octets) : Option (Option Nat) :=
  let body := if cs.head? = some '+' then cs.tail else cs
  let lower := (String.ofList (body.takeWhile Char.isAlpha)).toLower
  if lower.startsWith "inf" then
    let used := if lower.startsWith "infinity" then 8 else 3
    (unitOf? (body.drop used)).map fun _ => none
  else
    let whole := body.takeWhile Char.isDigit
    let rest := body.drop whole.length
    let decimals := if rest.head? = some '.' then rest.tail.takeWhile Char.isDigit else []
    let rest := if rest.head? = some '.' then rest.drop (1 + decimals.length) else rest
    let (power, rest) := Floating.exponentAt 'e' 'E' rest
    if whole.isEmpty && decimals.isEmpty then none
    else
      (unitOf? rest).map fun unit =>
        let mantissa := Digits.value (whole ++ decimals) * unit
        let shift := power - decimals.length
        some (if 0 ≤ shift then mantissa * Nat.pow 10 (min shift 40).toNat
          else mantissa / Nat.pow 10 (min (-shift) 60).toNat)

/-- Runs a program for a limited time. -/
def timeout (s : State) (args : List Octets) (run : Runner) : State :=
  let forms : List OptionForm :=
    [.valued 'k' "kill-after", .valued 's' "signal", .long "preserve-status" .without,
      .long "foreground" .without, .plain 'v' "verbose"]
  withLeadingArgs s 125 forms args fun a =>
    match a.operands with
    | limit :: name :: rest =>
      match (a.value? "s").filter fun text => (Signal.ofText? 0 text).isNone with
      | some bad => misused s s!"{cited bad}: invalid signal" 125
      | none =>
        match duration? limit with
        | none => misused s s!"invalid time interval {cited limit}" 125
        | some n =>
          let signal := ((a.value? "s").bind (Signal.ofText? 0)).getD 15
          let inner : State := run s.fork (name :: rest) fun e =>
            failed s (startStatus e) s!"failed to run command {cited name}: {e.wording}"
          let time := n.map (s.world.time + ·)
          let isLate := match n, time with
            | some n, some time => n ≠ 0 && (inner.flow == Flow.endless || time < inner.world.time)
            | _, _ => false
          if isLate then
            let s := if a.has "v" then
                tell s s!"sending signal {Signal.nameOf signal} to command {cited name}"
              else s
            let cut := s.joined (inner.cutOff s (time.getD 0))
            if signal = 9 then cut.withFlow (.killed 9)
            else cut.withStatus (if a.has "preserve-status" then 128 + signal else 124)
          else { s.backFrom inner with flow := if inner.flow == Flow.endless then Flow.endless else s.flow }
    | _ => hint s 125

end ProtoTree.Shell.Utility
