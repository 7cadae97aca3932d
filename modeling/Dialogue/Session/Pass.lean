import Dialogue.Session.Basic

/-!
# Passes

Between two answers a session moves through the flow on its own: it enters node after
node until it reaches a question, an end, or a dead end. Such a pass
(`Dialogue.Progress.advance`) enters no node twice and no more nodes than the
settings allow; a session that would do so is aborted.
-/

namespace Dialogue

/-- A session in the course of a call, with the events that the call has emitted. -/
structure Progress where
  session : Session
  events : List Event

namespace Progress

/-- Notes steps in the trace, if one is kept. -/
def record (p : Progress) (steps : List TraceEvent) : Progress :=
  if p.session.settings.recordTrace then
    { p with session := { p.session with trace := p.session.trace.extend steps } }
  else
    p

/-- Emits an event; the observer receives it too. -/
def emit (p : Progress) (e : Event) : Progress where
  session := { p.session with observed := p.session.observed.map (· ++ [e]) }
  events := p.events ++ [e]

/-- Notes the time at which the session ended. -/
def finishTrace (p : Progress) (now : String) : Progress :=
  { p with session.trace.finishedAt := some now }

/-- Completes the session, early unless it stands at an end node. -/
def complete (p : Progress) (now : String) (early : Bool) (endNode : Option String) : Progress :=
  let p : Progress := { p with session.state := .completed, session.endedEarly := early }
  let p := (p.record [.completed early]).finishTrace now
  p.emit (.completed p.session.store.values early endNode)

/-- Aborts the session. -/
def abort (p : Progress) (now : String) (reason : Abort) : Progress :=
  let p : Progress := { p with session.state := .aborted, session.abortReason := some reason }
  ((p.record [.aborted reason.message]).finishTrace now).emit (.aborted reason)

/-- Ends the session where edges leave a node but none can be followed. -/
def deadEnd (p : Progress) (now : String) (reason : Abort) : Progress :=
  match p.session.settings.deadEnd with
  | .complete => p.complete now true none
  | .abort => p.abort now reason

/-- Enters a node: shows its message, asks its question, or ends the session at it. -/
def enter (p : Progress) (now : String) (n : Node) : Progress :=
  let p : Progress := { p with session.cursor := some n.id }
  let p := p.record [.nodeEntered n.id n.kind]
  match n.content with
  | .start | .condition _ => p
  | .message text => p.emit (.message n.id text)
  | .question q =>
    let p : Progress := { p with session.state := .awaitingInput }
    (p.record [.suspended n.id]).emit (.question n.id q.text q.options q.variableName)
  | .finish none => p.complete now false (some n.id)
  | .finish (some text) => (p.emit (.message n.id text)).complete now false (some n.id)

end Progress

/-- Whether a pass ends at a node: at a question it waits, at an end it is over. -/
def Node.haltsPass (n : Node) : Bool :=
  match n.content with
  | .question _ | .finish _ => true
  | .start | .message _ | .condition _ => false

namespace Progress

/-- Goes on from the node `current`: finds the next node, enters it, and so on until
the pass ends. At most `steps` further nodes are entered, and none of those already
`entered` in this pass. -/
def advance (now : String) (flow : Flow) (current : String) (entered : List String)
    (steps : Nat) (p : Progress) : Progress :=
  match flow.node current with
  | .error defect => p.abort now (.defect defect)
  | .ok node =>
    let (outcome, log) := flow.resolve node p.session.store
    let p := p.record log
    match outcome with
    | .error defect => p.abort now (.defect defect)
    | .ok .endOfFlow => p.complete now true none
    | .ok (.unresolved reason) => p.deadEnd now reason
    | .ok (.next next _) =>
      match steps with
      | 0 => p.abort now (.stepLimit p.session.settings.maxAutoSteps)
      | steps + 1 =>
        if next.id ∈ entered then
          p.abort now (.cycle next.id)
        else
          let p := p.enter now next
          if next.haltsPass then p
          else advance now flow next.id (next.id :: entered) steps p

/-- A whole pass from a node, of which the nodes `entered` are part already. -/
def pass (p : Progress) (now : String) (flow : Flow) (current : String)
    (entered : List String) : Progress :=
  advance now flow current entered p.session.settings.maxAutoSteps p

end Progress

end Dialogue
