import ProtoTree.Shell.Builtin.Directory
import ProtoTree.Shell.Builtin.Jobs
import ProtoTree.Shell.Builtin.Limits
import ProtoTree.Shell.Builtin.Meaning
import ProtoTree.Shell.Builtin.Variables
import ProtoTree.Shell.Condition
import ProtoTree.Shell.Print

/-! # Commands of the shell

The commands that are part of the shell and need no script to be run.
-/

namespace ProtoTree.Shell

open Text (Octets)

namespace State

open Builtin

/-- Ends the script with the status that is asked for. -/
def exit (s : State) (args : List Octets) : State :=
  if args.isEmpty then s.withFlow (.leave none)
  else s.withCount args 0 fun n => (s.withStatus n).withFlow (.leave (some n))

/-- Ends a function, or the script. -/
def returnFrom (s : State) (args : List Octets) : State :=
  s.withCount args s.status fun n => (s.withStatus n).withFlow (.returns (!args.isEmpty))

/-- Ends a number of loops, or goes on with their next round. -/
def leaveLoops (s : State) (args : List Octets) (flow : Nat → Flow) : State :=
  s.withCount args 1 fun n =>
    if n = 0 then s.abortNumber (args.headD [])
    else if s.loops = 0 then s.withStatus 0
    else (s.withStatus 0).withFlow (flow (min n s.loops))

/-- Runs a command that is part of the shell and needs no script. -/
def builtin? (s : State) (name : String) (args : List Octets) : Option State :=
  match name with
  | ":" | "true" => some (s.withStatus 0)
  | "false" => some (s.withStatus 1)
  | "echo" => some (s.print (Print.echo args))
  | "printf" => some (s.withOptions "" args fun _ args => Print.printf s args)
  | "test" => some (Condition.run s args)
  | "[" => some (Condition.runBracket s args)
  | "pwd" => some (s.printDir args)
  | "cd" | "chdir" => some (s.changeDir args)
  | "kill" => some (s.kill args)
  | "wait" => some (s.wait args)
  | "jobs" => some (s.listJobs args)
  | "fg" | "bg" => some (s.refuseJob args)
  | "trap" => some (s.trap args)
  | "exit" => some (s.exit args)
  | "return" => some (s.returnFrom args)
  | "break" => some (s.leaveLoops args .breakLoops)
  | "continue" => some (s.leaveLoops args .continueLoops)
  | "shift" => some (s.shift args)
  | "set" => some (s.set args)
  | "unset" => some (s.unset args)
  | "export" => some (s.declareExported args)
  | "readonly" => some (s.declareFixed args)
  | "local" => some (s.declareLocal args)
  | "read" => some (s.readLine args)
  | "getopts" => some (s.chooseOption args)
  | "type" => some (s.tellMeanings args)
  | "command" => some (s.describeCommand args)
  | "hash" => some (s.trackPrograms args)
  | "alias" => some (s.setAliases args)
  | "unalias" => some (s.unsetAliases args)
  | "umask" => some (s.changeMask args)
  | "ulimit" => some (s.changeLimit args)
  | "times" => some s.showTimes
  | _ => none

end State

end ProtoTree.Shell
