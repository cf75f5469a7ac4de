import ProtoTree.Log.Record
import ProtoTree.Plan
import ProtoTree.Text.Blank

/-! # Progress of a run

The events of a run, and how they show in the log.
-/

namespace ProtoTree

/-- What happens while a run goes on. Times are in milliseconds. -/
inductive ProgressEvent where
  | started (protoDir : String)
  | discoveryComplete (files : List Path) (scanTime : Nat)
  | resolutionComplete (compile omitted roots : Nat) (diagnostics : List Diagnostic)
  | compilerStarted (commandLine : String)
  | compilerFinished (success : Bool) (output : String) (runTime : Nat)
  | completed (totalTime : Nat)
  | failed (error : String)
  deriving DecidableEq, Repr, Inhabited

namespace ProgressEvent

/-- A record about progress. -/
def record (level : Level) (message : String) (fields : List (String × LogValue)) : LogRecord :=
  { level, target := "protosweep::progress::logging", message, fields }

/-- How an event shows in the log. With `verbose`, the details are worth `info`; without, only `debug`. -/
def records (verbose : Bool) (e : ProgressEvent) : List LogRecord :=
  let detail : Level := if verbose then .info else .debug
  match e with
  | started dir => [record .info "Starting protoc run" [("proto_dir", .shown dir)]]
  | discoveryComplete files time =>
    record .info "Proto discovery complete"
      [("files", .number files.length), ("scan_time_ms", .number time)] ::
    files.map fun file => record detail "Found proto file" [("file", .shown file.text)]
  | resolutionComplete compile omitted roots diagnostics =>
    record .info "Source set resolved"
      [("compile", .number compile), ("omitted", .number omitted), ("roots", .number roots)] ::
    diagnostics.map fun d => record detail "Resolution note" [("diagnostic", .shown d.text)]
  | compilerStarted command => [record detail "Running protoc" [("command", .shown command)]]
  | compilerFinished success output time =>
    let timeField := ("run_time_ms", LogValue.number time)
    let outputField := ("output", LogValue.shown (Text.trimEnd output))
    if !success then [record .warn "protoc reported errors" [timeField, outputField]]
    else if verbose && !Text.isBlankText output then
      [record .info "protoc finished" [timeField, outputField]]
    else [record .debug "protoc finished" [timeField]]
  | completed time => [record .info "Compile complete" [("total_time_ms", .number time)]]
  | failed error => [record .warn "Compile failed" [("error", .shown error)]]

end ProgressEvent

end ProtoTree
