import ProtoTree.Shell.Builtin.Basic

/-! # Jobs and signals

The commands about what runs beside a script: waiting for it, listing it,
sending signals, and what happens when signals arrive.
-/

namespace ProtoTree.Shell

open Text (Octets)

namespace State

open Builtin

/-! ## Jobs -/

/-- Whether a job is over by now. -/
def isOver (s : State) (j : Job) : Bool := j.finish.any (· ≤ s.world.time)

/-- Forgets a job; what it has printed stays. -/
def forget (s : State) (j : Job) : State :=
  let s := s.settleJob j
  { s with jobs := s.jobs.filter fun (k : Job) => k.process ≠ j.process }

/-- The first number that no job has that counts. Going to it, a job is forgotten that is over and was waited for. -/
def takeNumber (s : State) : Nat × State :=
  let isTaken (n : Nat) : Bool := s.jobs.any fun j => j.number = n && !(j.waited && s.isOver j)
  let number := ((List.range (s.jobs.length + 1)).map (· + 1)).find? fun n => !isTaken n
  let number := number.getD (s.jobs.length + 1)
  match s.jobs.find? (·.number = number) with
  | some j => (number, s.forget j)
  | none => (number, s)

/-- The job that an argument names, or what is wrong with it. -/
def jobOf (s : State) (arg : Option Octets) : Except String Job :=
  let orElse (j : Option Job) (reason : String) : Except String Job :=
    match j with
    | some j => .ok j
    | none => .error reason
  let missing (arg : Octets) : String := s!"No such job: {String.ofList arg}"
  let latest := orElse s.jobs.getLast? "No current job"
  match arg with
  | none | some ['%'] | some ['%', '+'] | some ['%', '%'] => latest
  | some ['%', '-'] => orElse s.jobs.dropLast.getLast? "No previous job"
  | some ('%' :: text) =>
    if Digits.isNumber text then orElse (s.jobs.find? (·.number = Digits.value text)) (missing ('%' :: text))
    else if text = ['?'] then
      match s.jobs with
      | [] => .error (missing ('%' :: text))
      | [j] => .ok j
      | _ => .error s!"%{String.ofList text}: ambiguous"
    else .error (missing ('%' :: text))
  | some arg => .error (missing arg)

/-- A job on a line of its own: its number, a mark for the latest ones, how it is doing, and room for its text. -/
def shownJob (s : State) (j : Job) (withProcess : Bool) : Octets :=
  let isAt (j' : Option Job) : Bool := j'.any (·.process = j.process)
  let mark := if isAt s.jobs.getLast? then '+' else if isAt s.jobs.dropLast.getLast? then '-' else ' '
  let state := if !s.isOver j then "Running"
    else match j.outcome with
      | .exited 0 => "Done"
      | .exited n => s!"Done({n})"
      | .killed signal => Signal.description signal
  let text := '[' :: Digits.ofNat j.number ++ [']', ' ', mark, ' ']
    ++ (if withProcess then Digits.ofNat j.process ++ [' '] else []) ++ state.toList
  text ++ List.replicate (if text.length < 33 then 33 - text.length else 1) ' ' ++ ['\n']

/-- Prints a job, and forgets it if it is over. -/
def tellJob (s : State) (flag : Option Char) (j : Job) : State :=
  let text := if flag = some 'p' then Digits.ofNat j.process ++ ['\n'] else s.shownJob j (flag = some 'l')
  let s := s.print text
  if flag ≠ some 'p' && s.isOver j then s.forget j else s

/-- Lists jobs: those that are named, or all, the latest first. -/
def listJobs (s : State) (args : List Octets) : State :=
  s.withOptions "lp" args fun flags names =>
    let flag := flags.getLast?.map (·.1)
    if names.isEmpty then s.jobs.reverse.foldl (fun s j => s.tellJob flag j) (s.withStatus 0)
    else
      names.foldl (fun s name =>
        if !s.goesOn then s
        else
          match s.jobOf (some name) with
          | .ok j => s.tellJob flag j
          | .error reason => s.abort reason) (s.withStatus 0)

/-- Cannot bring a job to the front or let it go on, since jobs are not under control. -/
def refuseJob (s : State) (args : List Octets) : State :=
  s.withOptions "" args fun _ names =>
    match s.jobOf names.head? with
    | .error reason => s.abort reason
    | .ok _ =>
      let shown := (names.head?.map String.ofList).getD "(null)"
      s.abort s!"job {shown} not created under job control"

/-! ## Waiting -/

/-- The signals for the ends of jobs other than one. -/
def comingEnds (s : State) (process : Nat) : List Sent :=
  s.jobs.filterMap fun j =>
    if j.process = process || s.world.gone.contains j.process then none
    else j.finish.map fun time => ⟨s.process, 17, time⟩

/-- The first signal with an action that arrives before a job has ended, with its time. -/
def interruption? (s : State) (process : Nat) (finish : Option Nat) : Option Sent :=
  let coming := (s.world.sent ++ s.comingEnds process).filter fun m =>
    m.process = s.process && (s.traps.lookup m.signal).any (!·.isEmpty)
      && !s.ignored.contains m.signal && Signal.isCaught m.signal
      && finish.all (m.time < ·)
  (coming.mergeSort fun a b => a.time ≤ b.time).head?

/-- Waits for a job, and marks it. When a signal comes first, its status is the second result. -/
def waitForJob (s : State) (j : Job) : State × Option Nat :=
  match s.interruption? j.process (later s.world.time j.finish) with
  | some m => ((s.waitUntil (some m.time)).settleJobs, some (128 + m.signal))
  | none =>
    let s := (s.waitUntil j.finish).settleJob j
    let jobs := s.jobs.map fun (k : Job) => if k.process = j.process then { k with waited := true } else k
    ({ s with jobs }, none)

/-- Waits for all jobs, those that end first before the others; the second result is the status when a signal comes
    before the last one has ended. -/
def waitForAll (s : State) : State × Option Nat :=
  let inOrder := s.jobs.mergeSort fun a b => match a.finish, b.finish with
    | some m, some n => m ≤ n
    | _, none => true
    | none, some _ => false
  let watchesEnds := (s.traps.lookup 17).any (!·.isEmpty)
  let start := s.world.time
  inOrder.foldl (fun (s, broken) j =>
    if broken.isSome || !s.goesOn then (s, broken)
    else if watchesEnds && start < s.world.time && !s.isOver j then (s, some 145)
    else s.waitForJob j) (s, none)

/-- Waits for jobs: all of them, or those that are named. -/
def wait (s : State) (args : List Octets) : State :=
  s.withOptions "" args fun _ names =>
    if names.isEmpty then
      let (s, broken) := s.waitForAll
      if s.goesOn then s.withStatus (broken.getD 0) else s
    else
      (names.foldl (fun (s, broken) name =>
        if broken || !s.goesOn then (s, broken)
        else
          let found : Except String (Option Job) :=
            if name.head? = some '%' then (s.jobOf (some name)).map some
            else
              match Arithmetic.readCount? name with
              | some n => .ok (s.jobs.find? fun j => j.process = n)
              | none => .error s!"Illegal number: {String.ofList name}"
          match found with
          | .error reason => (s.abort reason, false)
          | .ok none => (s, false)
          | .ok (some j) =>
            let isKnown := s.world.gone.contains j.process
            match s.waitForJob j with
            | (s, some status) => (s.withStatus status, true)
            | (s, none) =>
              if !s.goesOn then (s, false)
              else ((if isKnown then s else s.report j.outcome).withStatus j.outcome.status, false))
        (s.withStatus 127, false)).1

/-! ## Signals -/

/-- What the traps are, as commands. -/
def shownTraps (s : State) : Octets :=
  (s.traps.mergeSort fun a b => a.1 ≤ b.1).flatMap fun (signal, action) =>
    "trap -- ".toList ++ singleQuoted action ++ ' ' :: (Signal.nameOf signal).toList ++ ['\n']

/-- Sets or takes away what happens when signals arrive, up to the first name that is none. -/
def setTraps (s : State) (action : Option Octets) : List Octets → State
  | [] => s.withStatus 0
  | name :: rest =>
    match Signal.ofText? 0 name with
    | none => (s.mention s!"trap: {String.ofList name}: bad trap\n".toList).withStatus 1
    | some signal =>
      let others := s.traps.filter fun t => t.1 ≠ signal
      let traps := match action with
        | some action => (signal, action) :: others
        | none => others
      setTraps { s with traps } action rest

/-- Sets what happens when signals arrive, or lists it. -/
def trap (s : State) (args : List Octets) : State :=
  s.withOptions "" args fun _ words =>
    match words with
    | [] => s.print s.shownTraps
    | [name] => s.setTraps none [name]
    | action :: names =>
      if Digits.isNumber action && Digits.value action < Signal.count then s.setTraps none words
      else s.setTraps (if action = ['-'] then none else some action) names

def killUsage : String :=
  "Usage: kill [-s sigspec | -signum | -sigspec] [pid | job]... or\nkill -l [exitstatus]"

/-- Sends a signal to processes. A job has no processes that could be reached by its number. -/
def sendTo (s : State) (signal : Nat) (targets : List Octets) : State :=
  let missing (s : State) : State := s.fail 1 "No such process\n"
  targets.foldl (fun s arg =>
    if !s.goesOn then s
    else
      match arg with
      | '%' :: _ =>
        match s.jobOf (some arg) with
        | .ok _ => missing s
        | .error reason => s.abort reason
      | '-' :: digits =>
        match Arithmetic.readCount? digits with
        | some _ => missing s
        | none => s.abortNumber digits
      | digits =>
        match Arithmetic.readCount? digits with
        | some process =>
          let process := if process = 0 then s.process else process
          if s.isKnown process then s.send process signal else missing s
        | none => s.abortNumber digits) (s.withStatus 0)

/-- Prints the names of signals: all, or the one of a status. -/
def listSignals (s : State) (args : List Octets) : State :=
  match args with
  | [] =>
    let names := (List.range Signal.count).map fun n => if n = 0 then "0" else Signal.nameOf n
    s.print (String.join (names.map (· ++ "\n"))).toList
  | arg :: _ =>
    match Arithmetic.readCount? arg with
    | none => s.abortNumber arg
    | some n =>
      let signal := if 128 < n then n - 128 else n
      if 0 < signal && signal < Signal.count then s.print (Signal.nameOf signal ++ "\n").toList
      else s.abort s!"invalid signal number or exit status: {String.ofList arg}"

/-- Sends signals, or prints their names. -/
def kill (s : State) (args : List Octets) : State :=
  let send (signal : Nat) (targets : List Octets) : State :=
    if targets.isEmpty then s.abort killUsage else s.sendTo signal targets
  match args with
  | [] => s.abort killUsage
  | first :: rest =>
    match first with
    | '-' :: name =>
      match Signal.ofText? 1 name with
      | some signal => send signal rest
      | none =>
        s.withOptions "ls:" args fun flags targets =>
          let named := (flags.filter (·.1 == 's')).map (·.2)
          match named.find? fun name => (Signal.ofText? 1 name).isNone with
          | some name => s.abort s!"invalid signal number or name: {String.ofList name}"
          | none =>
            if flags.any (·.1 == 'l') then
              if named.isEmpty then s.listSignals targets else s.abort killUsage
            else send ((named.getLast?.bind (Signal.ofText? 1)).getD 15) targets
    | _ => send 15 args

end State

end ProtoTree.Shell
