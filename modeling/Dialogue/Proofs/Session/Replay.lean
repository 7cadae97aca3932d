import Dialogue.Proofs.Session.Passes
import Dialogue.Proofs.Session.Rest

/-!
# Replaying a trace

The answers that a session has noted since its last start are enough to make the session
again, but for its id and the times (`Dialogue.Session.Replica`): a new session that is
started on the same flow and gets these answers becomes a replica of it
(`Dialogue.Session.replays_performAll`). It does not matter by which calls the session came
to its answers. Calls that were refused have left no mark, options were stored as values, and
a new start has cleared what was before.

Two replicas pass alike, because a pass reads neither the id nor the times
(`Dialogue.Session.Replica.pass`). So each call that opens a pass is replayed by one call,
and the answers noted are those of these calls, since a pass itself notes none.
-/

namespace Dialogue

/-! ### Answers in a trace -/

/-- The answer that an event notes. -/
def TraceEvent.answer? : TraceEvent → Option String
  | .answerCommitted _ _ value => some value
  | _ => none

/-- The answers noted in a trace, in order. -/
def Trace.answers (t : Trace) : List String :=
  t.events.filterMap TraceEvent.answer?

/-- Looking for the next node notes no answer. -/
theorem Flow.answer?_resolve {flow : Flow} {current : Node} {store : Store} {e : TraceEvent}
    (he : e ∈ (flow.resolve current store).2) : e.answer? = none := by
  rcases weighed_or_taken he with hweighed | ⟨target, handle, rfl⟩
  · cases e <;> simp_all [TraceEvent.weighedAt?, TraceEvent.answer?]
  · rfl

/-- **A route notes no answer.** -/
theorem Flow.answer?_wayLog {flow : Flow} {store : Store} {current : Node} {transit : List Node}
    {ending : Ending} {e : TraceEvent} (he : e ∈ flow.wayLog store current transit ending) :
    e.answer? = none := by
  induction transit generalizing current with
  | nil =>
    rcases List.mem_append.mp he with hresolve | harrived
    · exact Flow.answer?_resolve hresolve
    · obtain ⟨n, -, rfl⟩ := List.mem_map.mp harrived
      rfl
  | cons next transit ih =>
    rcases List.mem_append.mp he with hresolve | hrest
    · exact Flow.answer?_resolve hresolve
    · rcases List.mem_cons.mp hrest with rfl | hway
      · rfl
      · exact ih hway

theorem Event.answer?_closingLog {event : Event} {e : TraceEvent} (he : e ∈ event.closingLog) :
    e.answer? = none := by
  cases event <;> simp_all [closingLog, TraceEvent.answer?]

/-- What a session notes does not depend on the times in its trace. -/
theorem Trace.entries_extend {t t' : Trace} (h : t'.entries = t.entries) (l : List TraceEvent) :
    (t'.extend l).entries = (t.extend l).entries := by
  induction l generalizing t t' with
  | nil => exact h
  | cons e l ih => exact ih (by simp [push, h])

theorem Settings.entries_noted (settings : Settings) {t t' : Trace} (h : t'.entries = t.entries)
    (steps : List TraceEvent) :
    (settings.noted t' steps).entries = (settings.noted t steps).entries := by
  unfold noted
  split
  · exact Trace.entries_extend h steps
  · exact h

namespace Session

/-! ### Replicas -/

/-- **A replica** of a session is the same but for the id, the times and the observer. -/
structure Replica (s r : Session) : Prop where
  settings : r.settings = s.settings
  flow : r.flow = s.flow
  state : r.state = s.state
  cursor : r.cursor = s.cursor
  store : r.store = s.store
  entries : r.trace.entries = s.trace.entries
  endedEarly : r.endedEarly = s.endedEarly
  abortReason : r.abortReason = s.abortReason

variable {s r : Session} {p p' : Progress} {now now' : String} {flow : Flow} {c : Call}
  {origin : Node} {counted : Bool} {settings : Settings}

theorem Replica.closed (h : Replica s r) (now now' : String) (e : Event) :
    Replica (s.closed now e) (r.closed now' e) := by
  cases e with
  | message => exact h
  | question => exact { h with state := rfl }
  | completed => exact { h with state := rfl, endedEarly := rfl }
  | aborted => exact { h with state := rfl, abortReason := rfl }

/-- An event closes replicas alike. -/
theorem Replica.close (h : Replica p.session p'.session) (now now' : String) (e : Event) :
    Replica (p.close now e).session (p'.close now' e).session := by
  have hentries : (p'.session.settings.noted p'.session.trace e.closingLog).entries =
      (p.session.settings.noted p.session.trace e.closingLog).entries := by
    rw [h.settings]
    exact Settings.entries_noted _ h.entries _
  refine Replica.closed ?_ now now' e
  exact { h with entries := hentries }

/-- Replicas move alike along a route. -/
theorem Replica.along (h : Replica p.session p'.session) (flow : Flow) (origin : Node)
    (transit : List Node) (ending : Ending) :
    Replica (p.along flow origin transit ending).session
      (p'.along flow origin transit ending).session := by
  refine { h with cursor := ?_, entries := ?_ }
  · simp only [Progress.along, h.cursor]
  · simp only [Progress.along, h.settings, h.store]
    exact Settings.entries_noted _ h.entries _

/-- **Replicas pass alike.** -/
theorem Replica.pass (h : Replica p.session p'.session)
    (hknown : flow.node? origin.id = some origin) (now now' : String) (entered : List String) :
    Replica (p.pass now flow origin.id entered).session
      (p'.pass now' flow origin.id entered).session := by
  obtain ⟨r, -, hpass⟩ := Progress.exists_pass_eq hknown p.session.store p.session.settings entered
  rw [hpass p now rfl rfl, hpass p' now' h.store h.settings]
  exact (h.along ..).close now now' _

/-- New runs with the same settings begin alike. -/
theorem replica_begun (h : r.settings = s.settings) (flow : Flow) (now now' : String) :
    Replica (s.begun now flow).session (r.begun now' flow).session := by
  rw [begun_eq, begun_eq, h]
  refine ⟨rfl, rfl, rfl, rfl, rfl, ?_, rfl, rfl⟩
  exact Settings.entries_noted _ (by rfl) _

/-- Replicas store an answer alike. -/
theorem Replica.answered (h : Replica s r) (node : String) (q : Question) (value : String) :
    Replica (s.answered node q value).session (r.answered node q value).session := by
  rw [answered_eq, answered_eq, h.settings]
  have hstore : r.store.set q.variableName value node = s.store.set q.variableName value node := by
    rw [h.store]
  exact { h with
    settings := rfl
    state := rfl
    store := hstore
    entries := Settings.entries_noted _ h.entries _ }

/-! ### Replays -/

/-- **A session is replayed** by starting a new one on a flow and giving it some answers: no
call is refused, and the new session becomes a replica, whatever its id and the times of the
calls. -/
def Replays (settings : Settings) (flow : Flow) (answers : List String) (s : Session) : Prop :=
  ∀ (id : SessionId) (calls : List (String × Call)),
    calls.map (·.2) = .start flow :: answers.map .submit →
      (∀ result ∈ ((Session.new settings id).performAll calls).2, ∃ events, result = .ok events) ∧
        Replica s ((Session.new settings id).performAll calls).1

theorem performAll_append (s : Session) (calls later : List (String × Call)) :
    s.performAll (calls ++ later) =
      (((s.performAll calls).1.performAll later).1,
        (s.performAll calls).2 ++ ((s.performAll calls).1.performAll later).2) := by
  induction calls generalizing s with
  | nil => rfl
  | cons entry rest ih =>
    simp only [List.cons_append, performAll, ih]

/-- **A new run is replayed** without answers. -/
theorem replays_start (s : Session) (now : String) (flow : Flow) :
    Replays s.settings flow []
      ((s.begun now flow).pass now flow flow.start.id (flow.start.seeds true)).session := by
  intro id calls hcalls
  obtain ⟨⟨time, c⟩, rfl, rfl⟩ := List.map_eq_singleton_iff.mp hcalls
  have hopening : Opening (Session.new s.settings id) time flow (.start flow)
      ((Session.new s.settings id).begun time flow) flow.start true := Opening.start rfl
  simp only [performAll, perform_of_ok hopening.call_eq]
  refine ⟨fun result hresult => ⟨_, List.mem_singleton.mp hresult⟩, ?_⟩
  have hsettings : (Session.new s.settings id).settings = s.settings := rfl
  exact (replica_begun hsettings flow now time).pass flow.node?_start now time _

/-- **An answer is replayed** after those before it. -/
theorem Replays.answer {answers : List String} {q : Question} {value : String}
    (h : Replays settings flow answers s) (waits : s.state = .awaitingInput)
    (loaded : s.flow = some flow) (stands : s.cursor = some origin.id)
    (known : flow.node? origin.id = some origin) (asks : origin.content = .question q)
    (now : String) :
    Replays settings flow (answers ++ [value])
      ((s.answered origin.id q value).pass now flow origin.id (origin.seeds false)).session := by
  intro id calls hcalls
  rw [List.map_append, ← List.cons_append] at hcalls
  obtain ⟨before, last, rfl, hbefore, hlast⟩ := List.map_eq_append_iff.mp hcalls
  obtain ⟨⟨time, c⟩, rfl, rfl⟩ := List.map_eq_singleton_iff.mp hlast
  obtain ⟨hok, hreplica⟩ := h id before hbefore
  rw [performAll_append]
  generalize (Session.new settings id).performAll before = out at hok hreplica
  obtain ⟨r, results⟩ := out
  -- the replica waits at the same question
  have hopening : Opening r time flow (.submit value) (r.answered origin.id q value) origin
      false :=
    Opening.answer (hreplica.state.trans waits) (hreplica.flow.trans loaded)
      (hreplica.cursor.trans stands) known asks
  simp only [performAll, perform_of_ok hopening.call_eq]
  constructor
  · intro result hresult
    rcases List.mem_append.mp hresult with hearlier | hlast
    · exact hok result hearlier
    · exact ⟨_, List.mem_singleton.mp hlast⟩
  · exact (hreplica.answered origin.id q value).pass known now time _

/-! ### Sessions that can be replayed -/

/-- A pass notes no answer. -/
theorem answers_pass (hknown : flow.node? origin.id = some origin) (p : Progress) (now : String)
    (entered : List String) :
    (p.pass now flow origin.id entered).session.trace.answers = p.session.trace.answers := by
  have hleads := flow.leads_route p.session.store p.session.settings.maxAutoSteps origin entered
    p.session.settings.maxAutoSteps
  rw [Progress.pass, Progress.advance_eq_travel hknown, Trace.answers,
    Progress.traceEvents_travel hleads rfl, List.filterMap_append, Trace.answers]
  refine List.append_right_eq_self.mpr (List.filterMap_eq_nil_iff.mpr fun e he => ?_)
  rcases List.mem_append.mp (Settings.mem_of_mem_recorded he) with hway | hclosing
  · exact Flow.answer?_wayLog hway
  · exact Event.answer?_closingLog hclosing

/-- **A session that keeps its trace can be replayed** with the answers in it, on the flow
that it holds. -/
structure Replayable (settings : Settings) (s : Session) : Prop where
  settings_eq : s.settings = settings
  replays : s.state ≠ .idle → ∃ flow, s.flow = some flow ∧
    Replays settings flow s.trace.answers s

/-- **A call that opens a pass is replayed** by one more call. -/
theorem Opening.replayable_pass (h : Opening s now flow c p origin counted)
    (hkeeps : settings.recordTrace = true) (hs : Replayable settings s) :
    Replayable settings (ofProgress (p.pass now flow origin.id (origin.seeds counted))).1 := by
  obtain ⟨hloaded, hsettings⟩ := h.spec_pass
  refine ⟨hsettings.trans hs.settings_eq, fun _ => ⟨flow, hloaded, ?_⟩⟩
  rw [ofProgress, answers_pass h.node?_origin, Trace.answers]
  cases h with
  | start idle =>
    have hnone : (s.begun now flow).session.trace.events.filterMap TraceEvent.answer? = [] := by
      rw [begun_eq, Settings.events_noted, Settings.recorded_eq (hs.settings_eq ▸ hkeeps)]
      rfl
    rw [hnone, ← hs.settings_eq]
    exact replays_start s now flow
  | @answer _ q value waits loaded stands known asks =>
    obtain ⟨flow', hflow', hreplays⟩ := hs.replays (by simp [waits])
    obtain rfl := Option.some.inj (hflow'.symm.trans loaded)
    have hadded : (s.answered origin.id q value).session.trace.events.filterMap
        TraceEvent.answer? = s.trace.answers ++ [value] := by
      rw [answered_eq, Settings.events_noted, Settings.recorded_eq (hs.settings_eq ▸ hkeeps),
        List.filterMap_append]
      rfl
    rw [hadded]
    exact hreplays.answer waits loaded stands known asks now

/-- **A trace is enough to replay its session.** Whatever calls are made to a new session that
keeps its trace: if it is not idle afterwards, then any new session with the same settings
that is started on the flow it holds, and gets the answers in its trace, becomes a replica of
it, and none of these calls is refused. -/
theorem replays_performAll {settings : Settings} (hkeeps : settings.recordTrace = true)
    (id : SessionId) {calls : List (String × Call)} {s : Session}
    (hs : s = ((Session.new settings id).performAll calls).1) (hstarted : s.state ≠ .idle) :
    ∃ flow, s.flow = some flow ∧ Replays settings flow s.trace.answers s := by
  have hreplayable : Replayable settings s := by
    rw [hs]
    exact passes_induction ⟨rfl, fun hstarted => absurd rfl hstarted⟩
      (fun _ h => ⟨h.settings_eq, fun hstarted => absurd rfl hstarted⟩)
      (fun opening h => opening.replayable_pass hkeeps h) calls
  exact hreplayable.replays hstarted

/-- A session that came to its one answer in `Dialogue.Flow.gated` by a detour is replayed
by two calls. -/
theorem replays_performAll_gated :
    let s := ((Session.new default default).performAll
      [("0", .submit "early"), ("1", .start .gated), ("2", .select "n"), ("3", .restart),
        ("4", .select "maybe"), ("5", .select "y")]).1
    s.state = .awaitingInput ∧ s.trace.answers = ["yes"] ∧
      Replica s ((Session.new default default).performAll
        [("6", .start .gated), ("7", .submit "yes")]).1 := by
  intro s
  have hstate : s.state = .awaitingInput := by decide
  have hloaded : s.flow = some Flow.gated := by decide
  have hanswers : s.trace.answers = ["yes"] := by decide
  have hkeeps : (default : Settings).recordTrace = true := rfl
  obtain ⟨flow, hflow, hreplays⟩ :=
    replays_performAll hkeeps default (s := s) rfl (by simp [hstate])
  obtain rfl := Option.some.inj (hflow.symm.trans hloaded)
  rw [hanswers] at hreplays
  exact ⟨hstate, hanswers, (hreplays default [("6", .start .gated), ("7", .submit "yes")] rfl).2⟩

end Session

end Dialogue
