import Dialogue.Flow.Node

/-!
# Execution traces

A trace lists what happened in a session, step by step from 1, so that a run can be
examined afterwards.
-/

namespace Dialogue

/-- What happened in one step. -/
inductive TraceEvent
  | sessionStarted (startNode : String)
  | nodeEntered (node : String) (kind : NodeKind)
  | ruleEvaluated (node field operator operand : String) (actual : Option String)
      (result : Bool)
  /-- `output` is the value of the output that the rules belong to, if any. -/
  | ruleSetEvaluated (node : String) (output : Option String) (result : Bool)
  | guardRejected (source target : String) (handle : Option String) (expected : String)
  | edgeResolved (source target : String) (handle : Option String)
  | answerCommitted (node variableName value : String)
  | suspended (node : String)
  | completed (early : Bool)
  | aborted (reason : String)
  deriving DecidableEq, Repr

/-- A numbered step. -/
structure TraceEntry where
  step : Nat
  event : TraceEvent
  deriving DecidableEq, Repr

/-- The trace of a session. Its times are texts; they are absent until the session
starts or ends. -/
structure Trace where
  version : Nat
  sessionId : String
  startedAt : Option String
  finishedAt : Option String
  entries : List TraceEntry
  deriving DecidableEq, Repr

namespace Trace

/-- The version of the format. -/
def currentVersion : Nat :=
  1

/-- The trace of a session that has not started. -/
def new (sessionId : String) : Trace :=
  ⟨currentVersion, sessionId, none, none, []⟩

/-- Adds an event as the next step. -/
def push (t : Trace) (event : TraceEvent) : Trace :=
  { t with entries := t.entries ++ [⟨t.entries.length + 1, event⟩] }

/-- Adds events as the next steps. -/
def extend (t : Trace) (events : List TraceEvent) : Trace :=
  events.foldl push t

/-- The ids of the nodes that were entered, in order. -/
def enteredNodes (t : Trace) : List String :=
  t.entries.filterMap fun entry =>
    match entry.event with
    | .nodeEntered node _ => some node
    | _ => none

/-- The first entry whose step number is not one more than its position, with that
position. -/
def firstMisnumbered? (t : Trace) : Option (Nat × TraceEntry) :=
  (t.entries.zipIdx.find? fun (entry, i) => entry.step != i + 1).map fun (entry, i) => (i, entry)

end Trace

end Dialogue
