import Dialogue.Session.Pass

/-!
# Calls

What a user can do with a session: start it on a flow, answer the pending question
freely or by one of its options, reset it, or start it again. A call that is out of
place is refused (`Dialogue.Refusal`) and leaves the session as it is; any other
call returns the session that results and the events to show
(`Dialogue.Session.perform`). All calls take the time at which they happen.
-/

namespace Dialogue

/-- The calls that can be out of place. -/
inductive Operation
  | start
  | submitAnswer
  | selectOption
  | restart
  deriving DecidableEq, Repr

/-- The name of an operation in messages. -/
def Operation.name : Operation → String
  | start => "start"
  | submitAnswer => "submit_answer"
  | selectOption => "select_option"
  | restart => "restart"

/-- Why a call is refused. -/
inductive Refusal
  | wrongState (operation : Operation) (state : SessionState)
  | unknownOption (node value : String)
  deriving DecidableEq, Repr

/-- The text of a refusal. -/
def Refusal.message : Refusal → String
  | wrongState operation state =>
    "'" ++ operation.name ++ "' is not valid while the session is " ++ state.name
  | unknownOption node value =>
    "Question '" ++ node ++ "' has no option with value '" ++ value ++ "'"

namespace Session

/-- The session and the events at the end of a call. -/
abbrev Outcome := Except Refusal (Session × List Event)

/-- What a call has achieved. -/
def ofProgress (p : Progress) : Session × List Event :=
  (p.session, p.events)

/-- Starts an idle session on a flow, and moves on to where it has to wait or ends. -/
def start (s : Session) (now : String) (flow : Flow) : Outcome :=
  if s.state ≠ .idle then
    .error (.wrongState .start s.state)
  else
    let begun : Session :=
      { s with
        flow := some flow
        store := s.settings.newStore
        trace := { Trace.new s.id.text with startedAt := some now }
        abortReason := none
        endedEarly := false
        state := .running }
    let first := flow.start
    let p := (Progress.mk begun []).record [.sessionStarted first.id]
    let p := p.enter now first
    .ok (ofProgress (p.pass now flow first.id [first.id]))

/-- The flow and the node at which the session waits, if it does. -/
def waiting (s : Session) (operation : Operation) : Except Refusal (Flow × String) :=
  match s.state, s.flow, s.cursor with
  | .awaitingInput, some flow, some cursor => .ok (flow, cursor)
  | state, _, _ => .error (.wrongState operation state)

/-- Stores the answer to a question and moves on. -/
def commit (s : Session) (now : String) (flow : Flow) (node : String) (q : Question)
    (value : String) : Session × List Event :=
  let answered : Session :=
    { s with store := s.store.set q.variableName value node }
  let p := (Progress.mk answered []).record [.answerCommitted node q.variableName value]
  let p : Progress := { p with session.state := .running }
  ofProgress (p.pass now flow node [])

/-- Answers the pending question with any text, and moves on. -/
def submit (s : Session) (now : String) (value : String) : Outcome := do
  let (flow, cursor) ← s.waiting .submitAnswer
  match flow.node cursor with
  | .error defect => return ofProgress ((Progress.mk s []).abort now (.defect defect))
  | .ok node =>
    match node.question? with
    | none =>
      return ofProgress ((Progress.mk s []).abort now (.defect (.nodeNotFound cursor)))
    | some q => return s.commit now flow cursor q value

/-- Answers the pending question with one of its options, and moves on. A question
without options takes any text. -/
def select (s : Session) (now : String) (picked : String) : Outcome := do
  let (flow, cursor) ← s.waiting .selectOption
  match (flow.node? cursor).bind Node.question? with
  | none => s.submit now picked
  | some q =>
    if q.options.isEmpty then
      s.submit now picked
    else
      match q.findOption? picked with
      | some option => s.submit now option.value
      | none => .error (.unknownOption cursor picked)

/-- Goes back to idle and forgets the run. The flow is kept, to start again on it. -/
def reset (s : Session) : Session :=
  { s with
    state := .idle
    cursor := none
    store := s.settings.newStore
    trace := .new s.id.text
    abortReason := none
    endedEarly := false }

/-- Starts again on the flow that was started last. -/
def restart (s : Session) (now : String) : Outcome :=
  match s.flow with
  | none => .error (.wrongState .restart s.state)
  | some flow => s.reset.start now flow

end Session

/-! ### Calls as data -/

/-- A call to a session. -/
inductive Call
  | start (flow : Flow)
  | submit (value : String)
  | select (picked : String)
  | reset
  | restart
  deriving DecidableEq

namespace Session

/-- What a call leads to. -/
def call (s : Session) (now : String) : Call → Outcome
  | .start flow => s.start now flow
  | .submit value => s.submit now value
  | .select picked => s.select now picked
  | .reset => .ok (s.reset, [])
  | .restart => s.restart now

/-- The session after a call, and the events or the refusal that the caller gets. A
refused call leaves the session as it is. -/
def perform (s : Session) (now : String) (c : Call) : Session × Except Refusal (List Event) :=
  match s.call now c with
  | .ok (next, events) => (next, .ok events)
  | .error refusal => (s, .error refusal)

/-- The session after some calls, each at its time, and what the caller gets for each. -/
def performAll (s : Session) : List (String × Call) → Session × List (Except Refusal (List Event))
  | [] => (s, [])
  | (now, c) :: rest =>
    let (next, result) := s.perform now c
    let (last, results) := next.performAll rest
    (last, result :: results)

end Session

end Dialogue
