import Dialogue.Session.Pass

/-!
# What the moves of a pass write

A pass is made of a few moves: it notes steps in the trace, enters a node, completes the
session or aborts it. Each of them is given here in one equation that shows every part
of the session that it writes, and so all those that it leaves alone. After that no
proof opens the moves again.

What a node shows on entering it are its messages (`Dialogue.Node.messages`): the text
of a message node, or the closing message of an end node. Every way to end a pass is to
close it with an event (`Dialogue.Progress.close`), and that event tells what becomes of
the session.
-/

namespace Dialogue

/-! ### Traces that grow -/

namespace Trace

/-- What happened, without the numbers of the steps. -/
def events (t : Trace) : List TraceEvent :=
  t.entries.map (·.event)

@[simp]
theorem extend_nil (t : Trace) : t.extend [] = t :=
  rfl

@[simp]
theorem extend_cons (t : Trace) (e : TraceEvent) (l : List TraceEvent) :
    t.extend (e :: l) = (t.push e).extend l :=
  rfl

@[simp]
theorem startedAt_extend (t : Trace) (l : List TraceEvent) :
    (t.extend l).startedAt = t.startedAt := by
  induction l generalizing t with
  | nil => rfl
  | cons e l ih => exact ih (t.push e)

@[simp]
theorem finishedAt_extend (t : Trace) (l : List TraceEvent) :
    (t.extend l).finishedAt = t.finishedAt := by
  induction l generalizing t with
  | nil => rfl
  | cons e l ih => exact ih (t.push e)

/-- **Extending a trace adds the steps at its end.** -/
@[simp]
theorem events_extend (t : Trace) (l : List TraceEvent) :
    (t.extend l).events = t.events ++ l := by
  induction l generalizing t with
  | nil => simp
  | cons e l ih =>
    rw [extend_cons, ih]
    simp [events, push]

@[simp]
theorem events_new (sessionId : String) : (Trace.new sessionId).events = [] :=
  rfl

end Trace

/-- The node that an event enters. -/
def TraceEvent.enteredNode? : TraceEvent → Option String
  | .nodeEntered node _ => some node
  | _ => none

/-- The nodes entered are those that the events of the trace enter. -/
theorem Trace.enteredNodes_eq (t : Trace) :
    t.enteredNodes = t.events.filterMap TraceEvent.enteredNode? := by
  rw [Trace.events, List.filterMap_map]
  rfl

/-- The trace `t` with further steps, if a trace is kept. -/
def Settings.noted (s : Settings) (t : Trace) (steps : List TraceEvent) : Trace :=
  if s.recordTrace then t.extend steps else t

/-- Those of some steps that a trace takes up: all of them, if a trace is kept. -/
def Settings.recorded (s : Settings) (steps : List TraceEvent) : List TraceEvent :=
  if s.recordTrace then steps else []

namespace Settings

variable (s : Settings) (t : Trace)

theorem recorded_eq {s : Settings} (h : s.recordTrace = true) (steps : List TraceEvent) :
    s.recorded steps = steps :=
  if_pos h

theorem mem_of_mem_recorded {s : Settings} {steps : List TraceEvent} {e : TraceEvent}
    (h : e ∈ s.recorded steps) : e ∈ steps := by
  unfold recorded at h
  split at h
  · exact h
  · simp at h

theorem recorded_append (steps more : List TraceEvent) :
    s.recorded (steps ++ more) = s.recorded steps ++ s.recorded more := by
  unfold recorded
  split <;> simp

@[simp]
theorem startedAt_noted (steps : List TraceEvent) :
    (s.noted t steps).startedAt = t.startedAt := by
  unfold noted
  split <;> simp

@[simp]
theorem finishedAt_noted (steps : List TraceEvent) :
    (s.noted t steps).finishedAt = t.finishedAt := by
  unfold noted
  split <;> simp

theorem events_noted (steps : List TraceEvent) :
    (s.noted t steps).events = t.events ++ s.recorded steps := by
  unfold noted recorded
  split <;> simp

theorem noted_append (steps more : List TraceEvent) :
    s.noted (s.noted t steps) more = s.noted t (steps ++ more) := by
  unfold noted
  split
  · exact (List.foldl_append ..).symm
  · rfl

end Settings

/-! ### What nodes show -/

namespace Node

/-- What a node shows on entering it, a question apart. -/
def messages (n : Node) : List Event :=
  match n.content with
  | .message text | .finish (some text) => [.message n.id text]
  | _ => []

/-- The messages of a node are messages. -/
theorem eq_message_of_mem {n : Node} {e : Event} (h : e ∈ n.messages) :
    ∃ text, e = .message n.id text := by
  unfold messages at h
  split at h
  · exact ⟨_, List.mem_singleton.mp h⟩
  · exact ⟨_, List.mem_singleton.mp h⟩
  · simp at h

/-- The event with which a pass ends at a node that halts it. -/
def closing (n : Node) (store : Store) : Event :=
  match n.content with
  | .question q => .question n.id q.text q.options q.variableName
  | _ => .completed store.values false (some n.id)

variable {n : Node}

/-- A pass halts at the questions and the ends. -/
theorem haltsPass_cases (h : n.haltsPass = true) :
    (∃ q, n.content = .question q) ∨ ∃ message, n.content = .finish message := by
  unfold haltsPass at h
  cases hc : n.content <;> simp_all

theorem question?_eq_some_iff {q : Question} : n.question? = some q ↔ n.content = .question q := by
  unfold question?
  cases n.content <;> simp

/-- A question halts the pass. -/
theorem question?_eq_none (h : n.haltsPass = false) : n.question? = none := by
  cases hq : n.question? with
  | none => rfl
  | some q => simp [haltsPass, question?_eq_some_iff.mp hq] at h

theorem isEnd_iff : n.isEnd = true ↔ ∃ message, n.content = .finish message := by
  constructor
  · intro h
    have hkind : n.kind = .finish := beq_iff_eq.mp h
    unfold kind at hkind
    cases hc : n.content with
    | finish message => exact ⟨message, rfl⟩
    | _ => simp [hc] at hkind
  · rintro ⟨message, hm⟩
    rw [isEnd, kind, hm]
    rfl

/-- An end halts the pass. -/
theorem isEnd_eq_false (n : Node) (h : n.haltsPass = false) : n.isEnd = false := by
  cases hend : n.isEnd with
  | false => rfl
  | true =>
    obtain ⟨message, hm⟩ := isEnd_iff.mp hend
    simp [haltsPass, hm] at h

end Node

/-! ### The moves -/

/-- The steps of the trace that go with the event at the end of a pass. -/
def Event.closingLog : Event → List TraceEvent
  | .message .. => []
  | .question node .. => [.suspended node]
  | .completed _ early _ => [.completed early]
  | .aborted reason => [.aborted reason.message]

/-- The event at the end of a pass enters no node. -/
theorem Event.filterMap_closingLog (e : Event) :
    e.closingLog.filterMap TraceEvent.enteredNode? = [] := by
  cases e <;> rfl

/-- A session in the state that goes with the event at the end of a pass. -/
def Session.closed (now : String) (e : Event) (s : Session) : Session :=
  match e with
  | .message .. => s
  | .question .. => { s with state := .awaitingInput }
  | .completed _ early _ =>
    { s with state := .completed, endedEarly := early, trace.finishedAt := some now }
  | .aborted reason =>
    { s with state := .aborted, abortReason := some reason, trace.finishedAt := some now }

namespace Session

variable {now : String} {e : Event} {s : Session}

theorem observed_closed : (s.closed now e).observed = s.observed := by
  cases e <;> rfl

theorem flow_closed : (s.closed now e).flow = s.flow := by
  cases e <;> rfl

theorem store_closed : (s.closed now e).store = s.store := by
  cases e <;> rfl

theorem cursor_closed : (s.closed now e).cursor = s.cursor := by
  cases e <;> rfl

theorem settings_closed : (s.closed now e).settings = s.settings := by
  cases e <;> rfl

theorem traceEvents_closed : (s.closed now e).trace.events = s.trace.events := by
  cases e <;> rfl

end Session

namespace Progress

variable (p : Progress) (now : String)

/-- **Noting steps** writes the trace only. -/
theorem record_eq (steps : List TraceEvent) :
    p.record steps =
      { p with session.trace := p.session.settings.noted p.session.trace steps } := by
  unfold record Settings.noted
  split <;> rfl

@[simp]
theorem store_record (steps : List TraceEvent) :
    (p.record steps).session.store = p.session.store := by
  rw [record_eq]

@[simp]
theorem settings_record (steps : List TraceEvent) :
    (p.record steps).session.settings = p.session.settings := by
  rw [record_eq]

/-- Enters a node as far as the cursor, the trace and the messages go. -/
def visit (n : Node) : Progress where
  session :=
    { p.session with
      cursor := some n.id
      trace := p.session.settings.noted p.session.trace [.nodeEntered n.id n.kind]
      observed := p.session.observed.map (· ++ n.messages) }
  events := p.events ++ n.messages

/-- Ends a pass with an event. -/
def close (e : Event) : Progress where
  session := Session.closed now e
    { p.session with
      trace := p.session.settings.noted p.session.trace e.closingLog
      observed := p.session.observed.map (· ++ [e]) }
  events := p.events ++ [e]

@[simp]
theorem startedAt_close (e : Event) :
    (p.close now e).session.trace.startedAt = p.session.trace.startedAt := by
  cases e <;> simp [close, Session.closed]

theorem traceEvents_close (e : Event) :
    (p.close now e).session.trace.events =
      p.session.trace.events ++ p.session.settings.recorded e.closingLog := by
  rw [close, Session.traceEvents_closed]
  exact Settings.events_noted ..

/-- **A node on the way is only visited.** -/
theorem enter_of_transit {n : Node} (h : n.haltsPass = false) : p.enter now n = p.visit n := by
  unfold Node.haltsPass at h
  cases hc : n.content <;> simp_all [enter, visit, record_eq, emit, Node.messages]

/-- **Completing closes the pass.** -/
theorem complete_eq (early : Bool) (endNode : Option String) :
    p.complete now early endNode =
      p.close now (.completed p.session.store.values early endNode) := by
  simp only [complete, record_eq, finishTrace, emit]
  rfl

/-- **Aborting closes the pass.** -/
theorem abort_eq (reason : Abort) : p.abort now reason = p.close now (.aborted reason) := by
  simp only [abort, record_eq, finishTrace, emit]
  rfl

/-- **A node that halts the pass is visited, and closes it.** -/
theorem enter_of_halts {n : Node} (h : n.haltsPass = true) :
    p.enter now n = (p.visit n).close now (n.closing p.session.store) := by
  obtain ⟨q, hq⟩ | ⟨message, hm⟩ := Node.haltsPass_cases h
  · simp [enter, visit, close, record_eq, emit, Node.messages, Node.closing, hq, Session.closed,
      Event.closingLog]
  · cases message <;>
      simp [enter, visit, complete_eq, close, record_eq, emit, Node.messages, Node.closing, hm,
        Session.closed, Event.closingLog]

end Progress

end Dialogue
