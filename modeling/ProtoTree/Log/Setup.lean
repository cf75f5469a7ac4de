import ProtoTree.Environment
import ProtoTree.Log.Record
import ProtoTree.Text.Numeral

/-! # Log setups

Which records are written, and in what form. The first setup of a process
stays in force; before there is one, nothing is written.
-/

namespace ProtoTree

/-- What is written to the error stream. -/
inductive ErrorLine where
  /-- A text line of the log. -/
  | entry (line : String)
  /-- A JSON object of the log. -/
  | object (record : Document)
  /-- Text outside the log. -/
  | plain (text : String)
  deriving Repr, Inhabited

/-- How the log is written. -/
structure LogSetup where
  /-- The lowest level that is written. -/
  level : Level := .info
  useJson : Bool := false
  /-- Every record names the part of the program that it comes from. -/
  includeTarget : Bool := false
  includeLocation : Bool := false
  includeThreadIds : Bool := false
  deriving DecidableEq, Repr, Inhabited

/-- The line as text. -/
def ErrorLine.text : ErrorLine → String
  | entry line | plain line => line
  | object record => record.toJsonLine

namespace LogSetup

/-- JSON with everything that is known of a record. -/
def production : LogSetup :=
  { useJson := true, includeTarget := true, includeLocation := true, includeThreadIds := true }

/-- More records, with their targets. -/
def development : LogSetup := { level := .debug, includeTarget := true }

def withLevel (level : Level) : LogSetup := { level }

/-- The lines that a record is written as; records below the level are not. -/
def write (s : LogSetup) (r : LogRecord) : List ErrorLine :=
  if !r.level.passes s.level then []
  else if s.useJson then [.object (r.toDocument s.includeTarget)]
  else [.entry (r.toLine s.includeTarget)]

def writeAll (s : LogSetup) (records : List LogRecord) : List ErrorLine := records.flatMap s.write

end LogSetup

namespace Level

/-- What is printed about the name of a level: nothing, or that it is unknown. -/
def notices (name : String) : List ErrorLine :=
  if (ofName? name).isSome then [] else [.plain (unknownNotice name)]

end Level

namespace Environment

/-- Whether the environment asks for a log in JSON. -/
def logJson (env : Environment) : Bool :=
  ((env.lookup "PROTOSWEEP_LOG_JSON").bind Text.readBool?).getD false

/-- The name of the level that the environment asks for. -/
def logLevel (env : Environment) : String := (env.lookup "PROTOSWEEP_LOG_LEVEL").getD "info"

/-- The setup that the environment asks for. -/
def logSetup (env : Environment) : LogSetup := { level := .ofName env.logLevel, useJson := env.logJson }

end Environment

/-- A request to set the log up. -/
inductive LogRequest where
  | default
  /-- As the environment says. -/
  | environment
  | custom (level : String) (useJson includeTarget : Bool)
  deriving DecidableEq, Repr, Inhabited

namespace LogRequest

/-- The setup that is asked for. -/
def setup (env : Environment) : LogRequest → LogSetup
  | default => {}
  | environment => env.logSetup
  | custom level useJson includeTarget => { level := .ofName level, useJson, includeTarget }

/-- What making the request prints. -/
def notices (env : Environment) : LogRequest → List ErrorLine
  | default => []
  | environment => Level.notices env.logLevel
  | custom level .. => Level.notices level

end LogRequest

/-- What a process prints that makes requests and then logs records. -/
def LogSetup.session (env : Environment) (requests : List LogRequest) (records : List LogRecord) :
    List ErrorLine :=
  requests.flatMap (LogRequest.notices env) ++
    match requests with
    | [] => []
    | first :: _ => (first.setup env).writeAll records

end ProtoTree
