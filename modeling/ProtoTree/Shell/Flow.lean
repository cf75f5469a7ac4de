import ProtoTree.Shell.Start

/-! # Flow

What becomes of a script after a command: whether it goes on, what a loop does
next, and how a process comes back to the one that waits for it.
-/

namespace ProtoTree.Shell

open Text (Octets)

/-- Where a command stands. -/
structure Standing where
  /-- Its failure is looked at. -/
  tested : Bool := false
  /-- The process ends after it. -/
  last : Bool := false
  deriving DecidableEq, Repr, Inhabited

namespace Standing

/-- The standing of a command that others come after. -/
def inside (standing : Standing) : Standing := { standing with last := false }

/-- The standing of a command that decides what comes next. -/
def condition : Standing := ⟨true, false⟩

end Standing

namespace State

/-- Whether the script leaves out commands, and will go on later. -/
def isLeaving (s : State) : Bool :=
  match s.flow with
  | .returns _ | .breakLoops _ | .continueLoops _ => true
  | _ => false

/-- Whether the command ran to its end, even if it is not the next one that comes. -/
def isDone (s : State) : Bool := s.goesOn || s.isLeaving

/-- Ends the script when a command that is not a test has failed and the script asks for that. -/
def afterCommand (s : State) (standing : Standing) : State :=
  if s.isDone && s.options.contains 'e' && !standing.tested && s.status != 0 then
    s.withFlow (.leave (some s.status))
  else s

/-- What a loop does after its body or its condition: the state and whether it goes round again. -/
def afterRound (s : State) : State × Bool :=
  match s.flow with
  | .next => (s, true)
  | .breakLoops n => (s.withFlow (if n ≤ 1 then .next else .breakLoops (n - 1)), false)
  | .continueLoops n => if n ≤ 1 then (s.withFlow .next, true) else (s.withFlow (.continueLoops (n - 1)), false)
  | _ => (s, false)

/-- Takes up a number for a process that is to be waited for. -/
def reserve (s : State) : State := s.takeNumber.2

/-- Comes back from another process and tells when it was killed. -/
def joined (s inner : State) : State :=
  let s := ((s.backFrom inner).report inner.outcome).noticeEnd.settleJobs
  { s with world := { s.world with gone := inner.process :: s.world.gone } }

/-- A process that has ended: its jobs print what they have to print. -/
def ended (s : State) : State :=
  let s := { s with status := s.outcome.status }.release
  match s.flow with
  | .killed _ | .endless => s
  | _ => s.withFlow .replaced

/-- The process that runs beside the script: it reads nothing and cannot be interrupted. -/
def forkBeside (s : State) : State :=
  let inner := s.fork.lead 0 (some .nowhere)
  { inner with ignored := [2, 3] ++ inner.ignored }

/-- A job made of a process that has run to its end beside the script. -/
def withJob (s : State) (number : Nat) (inner : State) : State :=
  let finish := if inner.flow = .endless then none else some inner.world.time
  let printed := inner.world.printed.take (inner.world.printed.length - s.world.printed.length)
  let job : Job :=
    { process := inner.process, finish, outcome := inner.outcome, printed, number, ignored := inner.allIgnored
      trapped := (inner.traps.filter fun t => t.1 ≠ 0 && !t.2.isEmpty).map (·.1) }
  let holder : Holder := { process := inner.process, finish, channels := inner.channels }
  { s with
    world := { inner.world with
      disk := { inner.world.disk with cwd := s.world.disk.cwd }
      printed := s.world.printed, time := s.world.time, holders := holder :: inner.world.holders }
    jobs := s.jobs ++ [job], latest := some inner.process, status := 0 }

/-- Writes a command to where errors went before its redirections, when the script asks for that. -/
def trace (s before : State) (lead : Octets) (assignments : List (Octets × Octets)) (words : List Octets) : State :=
  let set := assignments.map fun (name, value) => name ++ '=' :: value
  let shown := lead ++ [' '].intercalate (set ++ words) ++ ['\n']
  let traced := { s with descriptors := before.descriptors }.mention shown
  { traced with descriptors := s.descriptors }

/-- What a process has done until its time was up. -/
def cutOff (s before : State) (time : Nat) : State :=
  let new := s.world.printed.take (s.world.printed.length - before.world.printed.length)
  let printed := new.filter (fun p => p.time ≤ time) ++ before.world.printed
  { s with status := 124, flow := .next, world := { s.world with time, printed } }

/-- Ends a function with what its arguments and loops were before. -/
def afterFunction (s inner : State) : State :=
  { inner with
    args := s.args, choosing := s.choosing, loops := s.loops, depth := s.depth
    flow := match inner.flow with
      | .returns _ => .next
      | flow => flow }

/-- What is left after the action of a signal: the status of before unless the action gives another. -/
def afterAction (s done : State) : State :=
  match done.flow with
  | .returns true | .leave (some _) | .faulted | .replaced | .killed _ | .endless => done
  | .leave none => done.withFlow (.leave (some s.status))
  | _ => done.withStatus s.status

/-- What is left after the action for the end of a script. -/
def afterLastAction (s done : State) : State :=
  match done.flow with
  | .leave (some _) | .killed _ | .endless | .replaced => done
  | .faulted => done.withFlow .next
  | _ => { done with status := s.status, flow := .next }

/-- Leaves signals to be received later. -/
def postpone (s : State) (signals : List Nat) : State :=
  let sent := signals.map fun signal => Sent.mk s.process signal s.world.time
  { s with world := { s.world with sent := sent ++ s.world.sent } }

end State

end ProtoTree.Shell
