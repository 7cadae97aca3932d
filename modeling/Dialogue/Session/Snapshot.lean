import Dialogue.Session.Call

/-!
# Snapshots

A snapshot keeps what a session needs to go on later, its flow apart
(`Dialogue.Session.snapshot`). From a snapshot and a flow the session is made again
(`Dialogue.Session.restore`), with an empty trace. A snapshot that was edited, or
taken on another flow, may not fit.
-/

namespace Dialogue

/-- What is kept of a session. -/
structure Snapshot where
  sessionId : SessionId
  state : SessionState
  cursor : Option String
  store : Store
  endedEarly : Bool
  abortReason : Option Abort
  deriving DecidableEq

/-- Why a session cannot be made from a snapshot. -/
inductive RestoreError
  | missingCursor
  | cursorNotQuestion (node : String)
  | defect (defect : Defect)
  deriving DecidableEq, Repr

/-- The text of a restoring error. -/
def RestoreError.message : RestoreError → String
  | missingCursor => "Snapshot of a started session has no cursor"
  | cursorNotQuestion node =>
    "Snapshot waits for input at '" ++ node ++ "', which is not a question node"
  | defect d => d.message

namespace Session

/-- What is kept of a session. -/
def snapshot (s : Session) : Snapshot where
  sessionId := s.id
  state := s.state
  cursor := s.cursor
  store := s.store
  endedEarly := s.endedEarly
  abortReason := s.abortReason

/-- The state of a session made from a snapshot taken in the given state, when it
stands at `node`: whatever was under way waits at its question. -/
def restoredState (state : SessionState) (node : Node) : Except RestoreError SessionState :=
  match state with
  | .running | .awaitingInput =>
    if node.question?.isNone then .error (.cursorNotQuestion node.id) else .ok .awaitingInput
  | other => .ok other

/-- Makes a session from a snapshot taken on the same flow. An idle session is made
without a flow. A session under way must stand at a question, any other at some node;
only an aborted one keeps a reason. -/
def restore (settings : Settings) (flow : Flow) (snap : Snapshot) : Except RestoreError Session :=
  let fresh := Session.new settings snap.sessionId
  if snap.state = .idle then
    .ok fresh
  else
    match snap.cursor with
    | none => .error .missingCursor
    | some cursor =>
      match flow.node cursor with
      | .error d => .error (.defect d)
      | .ok node =>
        match restoredState snap.state node with
        | .error e => .error e
        | .ok state =>
          .ok { fresh with
            flow := some flow
            state := state
            cursor := some cursor
            store := snap.store
            endedEarly := snap.endedEarly
            abortReason := if state = .aborted then snap.abortReason else none }

end Session

end Dialogue
