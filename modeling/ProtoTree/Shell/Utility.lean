import ProtoTree.Shell.Utility.Batches
import ProtoTree.Shell.Utility.Characters
import ProtoTree.Shell.Utility.Copying
import ProtoTree.Shell.Utility.Dump
import ProtoTree.Shell.Utility.Edit
import ProtoTree.Shell.Utility.Evaluation
import ProtoTree.Shell.Utility.Listing
import ProtoTree.Shell.Utility.Order
import ProtoTree.Shell.Utility.Paths
import ProtoTree.Shell.Utility.Printing
import ProtoTree.Shell.Utility.Reading
import ProtoTree.Shell.Utility.Running
import ProtoTree.Shell.Utility.Search
import ProtoTree.Shell.Utility.System
import ProtoTree.Shell.Utility.Walk

/-! # Utilities

Programs that the system has besides the shell.
-/

namespace ProtoTree.Shell.Utility

open Text (Octets)

/-- The programs that start no others, each with what it does. -/
def plainPrograms : List (String × (State → List Octets → State)) :=
  [("true", fun s _ => s.withStatus 0), ("false", fun s _ => s.withStatus 1), ("cat", cat), ("tac", tac),
    ("rev", rev), ("head", head), ("tail", tail), ("wc", wc), ("tr", tr), ("cut", cut), ("paste", paste),
    ("sort", sort), ("uniq", uniq), ("comm", comm), ("echo", echo), ("yes", yes), ("printf", printf), ("seq", seq),
    ("expr", expr), ("test", test), ("[", bracketTest), ("mkdir", mkdir), ("rmdir", rmdir), ("rm", rm),
    ("unlink", unlinkFile), ("touch", touch), ("truncate", truncate), ("tee", tee), ("chmod", chmod), ("cp", cp),
    ("mv", mv), ("ln", ln), ("ls", ls), ("basename", basename), ("dirname", dirname), ("readlink", readlink),
    ("realpath", realpath), ("pwd", pwd), ("stat", stat), ("mktemp", mktemp), ("sleep", sleep), ("date", date),
    ("id", id), ("whoami", whoami), ("groups", groups), ("logname", logname), ("uname", uname), ("arch", arch),
    ("nproc", nproc), ("tty", tty), ("sync", sync), ("printenv", printenv), ("factor", factor), ("grep", grep),
    ("sed", sed), ("od", od), ("cmp", cmp), ("base64", base64), ("nl", nl), ("fold", fold)]

/-- Runs a utility that starts no other program; none for one that is not here. -/
def run? (s : State) (name : String) (args : List Octets) : Option State :=
  (plainPrograms.lookup name).map fun act => act s args

/-- The names of the programs: those that start others, and those that do not. -/
def programs : List String :=
  ["sh", "dash", "env", "nohup", "nice", "timeout", "xargs", "find"] ++ plainPrograms.map (·.1)

end ProtoTree.Shell.Utility
