import Dialogue.File
import Dialogue.Json.Writer
import Dialogue.Trace.Codec

/-!
# Trace files

Traces are kept in files, to be examined after the session. `Dialogue.Trace.load`
accepts a trace only if its format is known and its steps are numbered without gaps.
-/

namespace Dialogue

/-- Why a file does not hold a trace. -/
inductive TraceError
  | unreadable (reason : FileError)
  | notTrace (reason : Json.DecodeError)
  | unsupportedVersion (version : Nat)
  | misnumbered (position step : Nat)
  deriving DecidableEq, Repr

/-- The text of a trace error, for the file with the given path. -/
def TraceError.message (path : String) : TraceError → String
  | unreadable reason => reason.message
  | notTrace reason => path ++ " is not an execution trace: " ++ reason.message
  | unsupportedVersion version =>
    "unsupported trace version " ++ toString version ++ " (newest known is "
      ++ toString Trace.currentVersion ++ ")"
  | misnumbered position step =>
    "trace entry " ++ toString position ++ " has step " ++ toString step ++ ", expected "
      ++ toString (position + 1)

/-- Whether the file could be read, so that the error is in what it holds. -/
def TraceError.invalidData : TraceError → Bool
  | unreadable _ => false
  | notTrace _ | unsupportedVersion _ | misnumbered _ _ => true

namespace Trace

/-- Checks that the format of a trace is known and that its steps count up from 1. -/
def check (t : Trace) : Except TraceError Trace :=
  if currentVersion < t.version then
    .error (.unsupportedVersion t.version)
  else
    match t.firstMisnumbered? with
    | some (position, entry) => .error (.misnumbered position entry.step)
    | none => .ok t

/-- The trace that a document holds. -/
def ofDocument (d : Json.Document) : Except TraceError Trace :=
  match d.decode decode with
  | .error reason => .error (.notTrace reason)
  | .ok t => t.check

/-- The trace that a file holds. -/
def load : FileContent → Except TraceError Trace
  | .error reason => .error (.unreadable reason)
  | .ok bytes => ofDocument (.ofBytes bytes)

/-- The text of a trace file. -/
def fileText (t : Trace) : String :=
  t.toJson.pretty

/-- The name of the file for a trace in a directory of traces. -/
def fileName (t : Trace) : String :=
  "trace-" ++ t.sessionId ++ ".json"

/-- The path of the file for a trace in a directory of traces. -/
def pathIn (directory : String) (t : Trace) : String :=
  if directory.isEmpty || directory.endsWith "/" then directory ++ t.fileName
  else directory ++ "/" ++ t.fileName

end Trace

end Dialogue
