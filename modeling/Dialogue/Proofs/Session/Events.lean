import Dialogue.Proofs.Session.Twins

/-!
# What a call shows

A call that opens a pass shows the messages of the nodes that it enters, in order, and
then one event that closes it and matches the state in which the session is left
(`Dialogue.Session.ClosedBy`). The nodes that a call enters are those that it notes in the
trace of a session that keeps one (`Dialogue.Session.enteredBy`); twins do the same, so it
does not matter whether the session itself keeps one.

An observer receives all events that calls return, in their order
(`Dialogue.Session.observed_performAll`).
-/

namespace Dialogue

namespace Session

/-- **The event matches the session** that a call has left with it. -/
def ClosedBy (s : Session) : Event → Prop
  | .message .. => False
  | .question node text options variableName =>
    s.state = .awaitingInput ∧ s.cursor = some node ∧
      ∃ q, s.pendingQuestion? = some q ∧ q.text = text ∧ q.options = options ∧
        q.variableName = variableName
  | .completed values early endNode =>
    s.state = .completed ∧ values = s.store.values ∧ early = s.endedEarly ∧
      (early = false → endNode.isSome = true ∧ endNode = s.cursor) ∧
      (early = true → endNode = none)
  | .aborted reason => s.state = .aborted ∧ s.abortReason = some reason

/-- **The events show the nodes entered**: first their messages, in order, and then one
event that closes the call and matches the session. The nodes belong to the flow that the
session holds. -/
def Shows (s : Session) (entered : List Node) (events : List Event) : Prop :=
  (∀ n ∈ entered, ∃ flow, s.flow = some flow ∧ n ∈ flow.nodes) ∧
    ∃ closing, events = entered.flatMap Node.messages ++ [closing] ∧ s.ClosedBy closing

/-- The session with an empty trace that it keeps. -/
def traced (s : Session) : Session :=
  s.relogged true (Trace.new s.id.text) s.observed

/-- The ids of the nodes that a call enters, in order, as they are noted in a trace. -/
def enteredBy (s : Session) (now : String) (c : Call) : List String :=
  (s.traced.perform now c).1.trace.enteredNodes

/-- The events that calls have returned, in their order. -/
def returned (results : List (Except Refusal (List Event))) : List Event :=
  results.flatMap fun result => result.toOption.getD []

variable {s s' : Session} {p : Progress} {now : String} {flow : Flow} {c : Call}
  {origin : Node} {counted : Bool} {out : Session × List Event}

/-! ### Closing events -/

/-- **The event that closes a pass matches the session after it.** -/
theorem closedBy_travel {limit : Nat} {r : Route}
    (h : flow.Leads p.session.store limit origin r.transit r.ending)
    (hloaded : p.session.flow = some flow) (now : String) :
    (p.travel now flow origin r.transit r.ending).session.ClosedBy
      (r.ending.closing p.session.settings.deadEnd p.session.store) := by
  rw [Progress.travel_eq h rfl]
  obtain ⟨transit, ending⟩ := r
  cases ending with
  | arrival n =>
    obtain ⟨hknown, hhalts⟩ := h.arrival_node
    have hcursor := p.cursor_along_arrival flow origin transit n
    obtain ⟨q, hq⟩ | ⟨message, hm⟩ := Node.haltsPass_cases hhalts
    · have hclosing : n.closing p.session.store =
          .question n.id q.text q.options q.variableName := by
        rw [Node.closing, hq]
      rw [Ending.closing, hclosing]
      refine ⟨rfl, hcursor, q, ?_, rfl, rfl, rfl⟩
      have hloaded' : (p.along flow origin transit (.arrival n)).session.flow = some flow := hloaded
      simp [Progress.close, closed, pendingQuestion?, currentNode?, hloaded', hcursor, hknown,
        Node.question?_eq_some_iff.mpr hq]
    · have hclosing : n.closing p.session.store =
          .completed p.session.store.values false (some n.id) := by
        rw [Node.closing, hm]
      rw [Ending.closing, hclosing]
      exact ⟨rfl, rfl, rfl, fun _ => ⟨rfl, hcursor.symm⟩, by simp⟩
  | endOfFlow => exact ⟨rfl, rfl, rfl, by simp, fun _ => rfl⟩
  | unresolved reason =>
    simp only [Ending.closing]
    cases p.session.settings.deadEnd with
    | complete => exact ⟨rfl, rfl, rfl, by simp, fun _ => rfl⟩
    | abort => exact ⟨rfl, rfl⟩
  | stopped reason => exact ⟨rfl, rfl⟩

/-- What a pass shows and is no message matches the session after it. -/
theorem Opening.closedBy_of_mem (h : Opening s now flow c p origin counted) {e : Event}
    (he : e ∈ (p.pass now flow origin.id (origin.seeds counted)).events)
    (hmessage : ∀ node text, e ≠ .message node text) :
    (p.pass now flow origin.id (origin.seeds counted)).session.ClosedBy e := by
  obtain ⟨hevents, hloaded, -, -⟩ := h.spec
  obtain ⟨r, hleads, hmoved⟩ := h.exists_route
  rw [hmoved, Progress.events_travel hleads rfl now, hevents, List.nil_append] at he
  rw [hmoved, r.eq_closing_of_mem_shown he hmessage]
  exact closedBy_travel hleads hloaded now

/-- **What a call shows and is no message matches the session after it.** -/
theorem Turn.closedBy_of_mem (h : Turn s now c out) {e : Event} (he : e ∈ out.2)
    (hmessage : ∀ node text, e ≠ .message node text) : out.1.ClosedBy e := by
  cases h with
  | reset => simp at he
  | direct opening => exact opening.closedBy_of_mem he hmessage
  | pick opening => exact opening.closedBy_of_mem he hmessage
  | again loaded opening => exact opening.closedBy_of_mem he hmessage
  | lost hlost =>
    rw [Progress.abort_eq] at he ⊢
    obtain rfl := List.mem_singleton.mp he
    exact ⟨rfl, rfl⟩

/-! ### Messages -/

/-- What is noted as entered when a pass is opened is the start node, if it counts. -/
theorem Opening.enteredNodes (h : Opening s now flow c p origin counted)
    (hrecord : s.settings.recordTrace = true) (hempty : s.trace.events = []) :
    p.session.trace.enteredNodes = origin.seeds counted := by
  rw [Trace.enteredNodes_eq]
  cases h with
  | start idle =>
    rw [begun_eq, Settings.events_noted, Settings.recorded_eq hrecord]
    rfl
  | answer waits loaded stands known asks =>
    rw [answered_eq, Settings.events_noted, hempty, Settings.recorded_eq hrecord]
    rfl

/-- What is noted as entered when a pass is opened are nodes of the flow that show
nothing. -/
theorem Opening.exists_seeds (h : Opening s now flow c p origin counted)
    (hrecord : s.settings.recordTrace = true) (hempty : s.trace.events = []) :
    ∃ seeds : List Node, p.session.trace.enteredNodes = seeds.map (·.id) ∧
      (∀ n ∈ seeds, n ∈ flow.nodes) ∧ seeds.flatMap Node.messages = [] := by
  rw [h.enteredNodes hrecord hempty]
  cases h with
  | start idle =>
    refine ⟨[flow.start], rfl, by simpa using flow.start_mem, ?_⟩
    simp [Node.messages, flow.content_start]
  | answer waits loaded stands known asks => exact ⟨[], rfl, by simp, rfl⟩

/-- **A pass shows the nodes that are noted as entered.** The trace is empty before. -/
theorem Opening.shows_pass (h : Opening s now flow c p origin counted)
    (hrecord : s.settings.recordTrace = true) (hempty : s.trace.events = []) :
    let out := ofProgress (p.pass now flow origin.id (origin.seeds counted))
    ∃ entered : List Node, out.1.trace.enteredNodes = entered.map (·.id) ∧
      Shows out.1 entered out.2 := by
  obtain ⟨hevents, hloaded, hsettings, -⟩ := h.spec
  obtain ⟨seeds, hseeds, hmem, hnone⟩ := h.exists_seeds hrecord hempty
  obtain ⟨r, hleads, hmoved⟩ := h.exists_route
  rw [hmoved]
  refine ⟨seeds ++ r.entered, ?_, ?_, _, ?_, closedBy_travel hleads hloaded now⟩
  · rw [List.map_append, ← hseeds]
    exact Progress.enteredNodes_travel hleads rfl (hsettings ▸ hrecord) now
  · intro n hn
    refine ⟨flow, (Progress.flow_travel hleads rfl now).trans hloaded, ?_⟩
    rcases List.mem_append.mp hn with hseed | hentered
    · exact hmem n hseed
    · exact (Flow.node?_eq_some_iff.mp (hleads.node?_of_mem n hentered)).1
  · refine (Progress.events_travel hleads rfl now).trans ?_
    rw [hevents, List.nil_append, List.flatMap_append, hnone, List.nil_append]
    rfl

/-- **A call that is not refused shows the nodes that are noted as entered.** The trace is
empty before. -/
theorem Turn.shows (h : Turn s now c out) (hreset : c ≠ .reset)
    (hrecord : s.settings.recordTrace = true) (hempty : s.trace.events = []) :
    ∃ entered : List Node, out.1.trace.enteredNodes = entered.map (·.id) ∧
      Shows out.1 entered out.2 := by
  cases h with
  | reset => exact absurd rfl hreset
  | direct opening => exact opening.shows_pass hrecord hempty
  | pick opening => exact opening.shows_pass hrecord hempty
  | again loaded opening => exact opening.shows_pass hrecord rfl
  | lost hlost =>
    rw [Progress.abort_eq]
    refine ⟨[], ?_, by simp, .aborted _, rfl, rfl, rfl⟩
    rw [Trace.enteredNodes_eq, ofProgress, Progress.traceEvents_close, hempty, List.nil_append,
      Settings.recorded_eq hrecord]
    exact Event.filterMap_closingLog _

/-- Twins show the same. -/
theorem Twins.shows_iff (h : Twins s s') {entered : List Node} {events : List Event} :
    Shows s' entered events ↔ Shows s entered events := by
  obtain ⟨keep, trace, observed, rfl⟩ := h
  have hclosed : ∀ e, (s.relogged keep trace observed).ClosedBy e ↔ s.ClosedBy e := by
    intro e
    cases e <;> exact Iff.rfl
  unfold Shows
  simp only [hclosed]
  exact Iff.rfl

/-! ### The observer -/

/-- The observer receives what a pass shows. -/
theorem Opening.observed_pass (h : Opening s now flow c p origin counted) :
    let q := p.pass now flow origin.id (origin.seeds counted)
    q.session.observed = s.observed.map (· ++ q.events) := by
  obtain ⟨hevents, -, -, hobserved⟩ := h.spec
  obtain ⟨r, hleads, hmoved⟩ := h.exists_route
  rw [hmoved]
  intro q
  have hshown : q.events = p.events ++ _ := Progress.events_travel hleads rfl now
  rw [hshown, hevents, List.nil_append, ← hobserved]
  exact Progress.observed_travel hleads rfl now

/-- **The observer receives what a call returns.** -/
theorem Turn.observed (h : Turn s now c out) : out.1.observed = s.observed.map (· ++ out.2) := by
  cases h with
  | reset => simp [Session.reset]
  | direct opening => exact opening.observed_pass
  | pick opening => exact opening.observed_pass
  | again loaded opening => exact opening.observed_pass
  | lost hlost =>
    rw [Progress.abort_eq]
    rfl

/-- **The observer receives all that calls return**, in order. -/
theorem observed_performAll (s : Session) (calls : List (String × Call)) :
    (s.performAll calls).1.observed =
      s.observed.map (· ++ returned (s.performAll calls).2) := by
  induction calls generalizing s with
  | nil =>
    cases ho : s.observed <;> simp [performAll, returned, ho]
  | cons entry rest ih =>
    have hfirst : (s.perform entry.1 entry.2).1.observed =
        s.observed.map (· ++ ((s.perform entry.1 entry.2).2.toOption.getD [])) := by
      unfold perform
      cases hcall : s.call entry.1 entry.2 with
      | error refusal => simp [Except.toOption]
      | ok out => exact (turn_of_call hcall).observed
    refine (ih (s.perform entry.1 entry.2).1).trans ?_
    rw [hfirst]
    cases s.observed with
    | none => rfl
    | some seen => exact congrArg some (List.append_assoc ..)

/-! ### The protocol -/

/-- **What calls show.** In any session, whatever call is made: if it is not refused and
is not a reset, the events that it returns show the nodes that it enters; all but the last
of them are messages. An observer that is attached before some calls has received what they
have returned, in order. -/
theorem events_protocol (s : Session) :
    (∀ now c s' events, c ≠ .reset → s.call now c = .ok (s', events) →
      (∃ entered : List Node, s.enteredBy now c = entered.map (·.id) ∧
        Shows s' entered events) ∧
      ∀ e ∈ events.dropLast, ∃ node text, e = .message node text) ∧
      ∀ calls : List (String × Call), (s.withObserver.performAll calls).1.observed =
        some (returned (s.withObserver.performAll calls).2) := by
  refine ⟨?_, fun calls => observed_performAll s.withObserver calls⟩
  intro now c s' events hreset hcall
  -- the nodes entered are read off the trace of a twin, whose call has the same outcome
  have htwins : Twins s s.traced := ⟨_, _, _, rfl⟩
  have hsame := htwins.call now c
  have hentered : s.enteredBy now c = (s.traced.perform now c).1.trace.enteredNodes := rfl
  rw [Session.perform] at hentered
  generalize htraced : s.traced.call now c = o at hsame hentered
  rw [hcall] at hsame
  cases hsame with
  | @done _ out same =>
    obtain ⟨entered, hids, hshows⟩ := (turn_of_call htraced).shows hreset rfl rfl
    have htwins' : Twins s' out.1 := same.twins
    have hevents : out.2 = events := same.events
    rw [htwins'.shows_iff, hevents] at hshows
    refine ⟨⟨entered, hentered.trans hids, hshows⟩, ?_⟩
    obtain ⟨-, closing, rfl, -⟩ := hshows
    intro e he
    rw [List.dropLast_concat] at he
    obtain ⟨n, -, hn⟩ := List.mem_flatMap.mp he
    obtain ⟨text, rfl⟩ := Node.eq_message_of_mem hn
    exact ⟨n.id, text, rfl⟩

/-- Started on `Dialogue.Flow.greeting`, a session shows the three nodes of that flow. -/
theorem events_protocol_greeting :
    ∃ s' events, (Session.new default default).call "now" (.start .greeting) = .ok (s', events) ∧
      ∃ entered : List Node, entered.map (·.id) = ["start", "hello", "ask"] ∧
        Shows s' entered events := by
  have hopening : Opening (Session.new default default) "now" .greeting (.start .greeting)
      ((Session.new default default).begun "now" .greeting) Flow.greeting.start true :=
    Opening.start rfl
  have hids : (Session.new default default).enteredBy "now" (.start .greeting) =
      ["start", "hello", "ask"] := by
    decide
  obtain ⟨⟨entered, hentered, hshows⟩, -⟩ := (events_protocol (Session.new default default)).1
    "now" (.start .greeting) _ _ (by simp) hopening.call_eq
  exact ⟨_, _, hopening.call_eq, entered, hentered.symm.trans hids, hshows⟩

end Session

end Dialogue
