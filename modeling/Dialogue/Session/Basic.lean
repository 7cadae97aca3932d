import Dialogue.Routing
import Dialogue.SessionId
import Dialogue.Settings

/-!
# Sessions

A session is one run of a conversation: where it stands, what was answered, and what
happened on the way. `Dialogue.Session` holds all of it as a value; the operations
that move it on are in `Dialogue.Session.Pass` and `Dialogue.Session.Call`.

What a session shows to its user are events (`Dialogue.Event`). An observer, if
there is one, receives each of them as it is emitted; here that is the list of the
events it has received.
-/

namespace Dialogue

/-- The states of a session. -/
inductive SessionState
  /-- No conversation is under way. -/
  | idle
  /-- Moving through nodes that need no answer. -/
  | running
  /-- Waiting at a question. -/
  | awaitingInput
  /-- Ended at an end node or a dead end. -/
  | completed
  /-- Stopped for a reason. -/
  | aborted
  deriving DecidableEq, Repr

namespace SessionState

/-- All states, in the order of declaration. -/
def all : List SessionState :=
  [idle, running, awaitingInput, completed, aborted]

/-- The name of a state in documents and messages. -/
def name : SessionState → String
  | idle => "idle"
  | running => "running"
  | awaitingInput => "awaiting_input"
  | completed => "completed"
  | aborted => "aborted"

/-- The name of a state in a summary. -/
def title : SessionState → String
  | idle => "Idle"
  | running => "Running"
  | awaitingInput => "AwaitingInput"
  | completed => "Completed"
  | aborted => "Aborted"

end SessionState

/-- What a session shows to its user. -/
inductive Event
  /-- A message, or the closing message of an end node. -/
  | message (node text : String)
  /-- A question; the session now waits for the answer. -/
  | question (node text : String) (options : List QuestionOption) (variableName : String)
  /-- The end, early if it is not at an end node. -/
  | completed (values : StringMap String) (early : Bool) (endNode : Option String)
  /-- The session cannot go on. -/
  | aborted (reason : Abort)
  deriving DecidableEq

/-- Whether a session has ended with this event. -/
def Event.isTerminal : Event → Bool
  | completed .. | aborted _ => true
  | message .. | question .. => false

/-- One run of a conversation. -/
structure Session where
  settings : Settings
  id : SessionId
  /-- The flow that was started last. -/
  flow : Option Flow
  state : SessionState
  /-- The node that was entered last. -/
  cursor : Option String
  store : Store
  trace : Trace
  abortReason : Option Abort
  /-- Whether the session completed without having reached an end node. -/
  endedEarly : Bool
  /-- What the observer has received, if there is one. -/
  observed : Option (List Event)
  deriving DecidableEq

/-- The store that a session begins with. -/
def Settings.newStore (s : Settings) : Store :=
  if s.recordHistory then .emptyWithHistory else .empty

namespace Session

/-- A session that has not started. -/
def new (settings : Settings) (id : SessionId) : Session where
  settings := settings
  id := id
  flow := none
  state := .idle
  cursor := none
  store := settings.newStore
  trace := .new id.text
  abortReason := none
  endedEarly := false
  observed := none

/-- Attaches an observer that receives the events from now on. -/
def withObserver (s : Session) : Session :=
  { s with observed := some [] }

/-- The node that was entered last. -/
def currentNode? (s : Session) : Option Node :=
  s.flow.bind fun flow => s.cursor.bind flow.node?

/-- The question that waits for an answer. -/
def pendingQuestion? (s : Session) : Option Question :=
  if s.state = .awaitingInput then s.currentNode?.bind Node.question? else none

/-- A short description of a session, under a name for its id. -/
def summary (s : Session) (idText : String) : String :=
  "FlowInterpreter \x7b session_id: " ++ idText ++ ", state: " ++ s.state.title
    ++ ", cursor: " ++ Text.quotedOption s.cursor
    ++ ", variables: " ++ toString s.store.size ++ ", .. \x7d"

end Session

end Dialogue
