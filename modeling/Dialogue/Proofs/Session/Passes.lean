import Dialogue.Proofs.Session.Events

/-!
# The pass that a call makes

A call that is not refused either makes a pass or enters no node
(`Dialogue.Session.passes_or_stays`). What a caller can see of the pass is gathered in
`Dialogue.Session.Passes`: where it set out and along which route of the flow it went, at
which node it left the session, what was shown, and which nodes were entered. The store
that decides about the route is the one that the session holds afterwards, because a call
writes it before the pass begins.
-/

namespace Dialogue

/-- The calls that begin a run. -/
def Call.SetsOut : Call → Prop
  | .start _ | .restart => True
  | .submit _ | .select _ | .reset => False

namespace Session

/-- **Where the pass of a call sets out**: at the start node, which counts as entered, or at
the question that is answered, which does not. -/
inductive Departs (s : Session) (c : Call) (flow : Flow) : (origin : Node) → Bool → Prop
  | start (begins : c.SetsOut) : Departs s c flow flow.start true
  | answer {origin : Node} {q : Question} (answers : ¬ c.SetsOut)
      (waits : s.state = .awaitingInput) (loaded : s.flow = some flow)
      (stands : s.cursor = some origin.id) (known : flow.node? origin.id = some origin)
      (asks : origin.content = .question q) : Departs s c flow origin false

/-- **The call has made a pass** along the route `r` from the node `origin`, with the
outcome `out`, and has entered the nodes named. -/
structure Passes (s : Session) (c : Call) (out : Session × List Event) (entered : List String)
    (flow : Flow) (origin : Node) (counted : Bool) (r : Route) : Prop where
  departs : Departs s c flow origin counted
  leads : flow.Leads out.1.store s.settings.maxAutoSteps origin r.transit r.ending
  loaded : out.1.flow = some flow
  cursor : out.1.cursor = some (r.last origin).id
  shown : out.2 = r.shown s.settings.deadEnd out.1.store
  entered : entered = origin.seeds counted ++ r.entered.map (·.id)

/-- **The call has entered no node**: it has reset the session, or aborted it. -/
structure Stays (s : Session) (out : Session × List Event) (entered : List String) : Prop where
  entered : entered = []
  cursor : out.1.cursor = none ∨ out.1.cursor = s.cursor
  waitsNot : out.1.state ≠ .awaitingInput
  shown : out.2 = [] ∨ ∃ reason, out.2 = [.aborted reason]

variable {s s' : Session} {now : String} {c : Call} {out : Session × List Event} {flow : Flow}
  {origin : Node} {counted : Bool} {p : Progress}

theorem Departs.known (h : Departs s c flow origin counted) :
    flow.node? origin.id = some origin := by
  cases h with
  | start begins => exact flow.node?_start
  | answer answers waits loaded stands known asks => exact known

/-- When a pass is opened, the session stands where it sets out. -/
theorem Opening.cursor (h : Opening s now flow c p origin counted) :
    p.session.cursor = some origin.id := by
  cases h with
  | start idle => rw [begun_eq]
  | answer waits loaded stands known asks => rw [answered_eq]; exact stands

theorem Opening.departs (h : Opening s now flow c p origin counted) :
    Departs s c flow origin counted := by
  cases h with
  | start idle => exact Departs.start trivial
  | answer waits loaded stands known asks =>
    exact Departs.answer not_false waits loaded stands known asks

/-- **A pass that is opened is made.** The trace is empty before. -/
theorem Opening.passes (h : Opening s now flow c p origin counted)
    (hrecord : s.settings.recordTrace = true) (hempty : s.trace.events = []) :
    let out := ofProgress (p.pass now flow origin.id (origin.seeds counted))
    ∃ r, Passes s c out out.1.trace.enteredNodes flow origin counted r := by
  obtain ⟨hevents, hloaded, hsettings, -⟩ := h.spec
  obtain ⟨r, hleads, hmoved⟩ := h.exists_route
  rw [hmoved]
  have hstore := Progress.store_travel hleads rfl now
  refine ⟨r, h.departs, ?_, (Progress.flow_travel hleads rfl now).trans hloaded,
    Progress.cursor_travel hleads rfl h.cursor now, ?_, ?_⟩
  · simp only [ofProgress]
    rw [hstore, ← hsettings]
    exact hleads
  · simp only [ofProgress]
    rw [hstore, ← hsettings, Progress.events_travel hleads rfl now, hevents, List.nil_append]
  · rw [← h.enteredNodes hrecord hempty]
    exact Progress.enteredNodes_travel hleads rfl (hsettings ▸ hrecord) now

/-- **A call that takes its turn makes a pass or enters no node.** The trace is empty
before. -/
theorem Turn.passes_or_stays (h : Turn s now c out) (hrecord : s.settings.recordTrace = true)
    (hempty : s.trace.events = []) :
    Stays s out out.1.trace.enteredNodes ∨
      ∃ flow origin counted r,
        Passes s c out out.1.trace.enteredNodes flow origin counted r := by
  cases h with
  | reset => exact Or.inl ⟨rfl, Or.inl rfl, by simp [Session.reset], Or.inl rfl⟩
  | direct opening =>
    obtain ⟨r, hpasses⟩ := opening.passes hrecord hempty
    exact Or.inr ⟨_, _, _, r, hpasses⟩
  | pick opening =>
    obtain ⟨r, hpasses⟩ := opening.passes hrecord hempty
    refine Or.inr ⟨_, _, _, r, { hpasses with departs := ?_ }⟩
    -- an option is picked at the question that waits
    cases hpasses.departs with
    | start begins => exact begins.elim
    | answer answers waits loaded stands known asks =>
      exact Departs.answer not_false waits loaded stands known asks
  | again loaded opening =>
    obtain ⟨r, hpasses⟩ := opening.passes hrecord rfl
    refine Or.inr ⟨_, _, _, r, { hpasses with departs := ?_ }⟩
    cases hpasses.departs with
    | start begins => exact Departs.start trivial
    | answer answers => exact absurd trivial answers
  | lost hlost =>
    rw [Progress.abort_eq]
    refine Or.inl ⟨?_, Or.inr rfl, by simp [ofProgress, Progress.close, closed], Or.inr ⟨_, rfl⟩⟩
    rw [Trace.enteredNodes_eq, ofProgress, Progress.traceEvents_close, hempty, List.nil_append,
      Settings.recorded_eq hrecord]
    exact Event.filterMap_closingLog _

/-- **A call that is not refused makes a pass or enters no node.** -/
theorem passes_or_stays (hcall : s.call now c = .ok out) :
    Stays s out (s.enteredBy now c) ∨
      ∃ flow origin counted r, Passes s c out (s.enteredBy now c) flow origin counted r := by
  -- the nodes entered are read off the trace of a twin, whose call has the same outcome
  have htwins : Twins s s.traced := ⟨_, _, _, rfl⟩
  have hsame := htwins.call now c
  have hentered : s.enteredBy now c = (s.traced.perform now c).1.trace.enteredNodes := rfl
  rw [Session.perform] at hentered
  generalize htraced : s.traced.call now c = o at hsame hentered
  rw [hcall] at hsame
  cases hsame with
  | @done _ out' same =>
    obtain ⟨last, events'⟩ := out'
    obtain ⟨keep, trace, observed, hlast⟩ : Twins out.1 last := same.twins
    have hevents : events' = out.2 := same.events
    subst hlast hevents
    rw [hentered]
    rcases (turn_of_call htraced).passes_or_stays rfl rfl with
      hstays | ⟨flow, origin, counted, r, hpasses⟩
    · exact Or.inl ⟨hstays.entered, hstays.cursor, hstays.waitsNot, hstays.shown⟩
    · refine Or.inr ⟨flow, origin, counted, r, ?_, hpasses.leads, hpasses.loaded,
        hpasses.cursor, hpasses.shown, hpasses.entered⟩
      cases hpasses.departs with
      | start begins => exact Departs.start begins
      | answer answers waits loaded stands known asks =>
        exact Departs.answer answers waits loaded stands known asks

theorem perform_of_ok {events : List Event} (hcall : s.call now c = .ok (s', events)) :
    s.perform now c = (s', .ok events) := by
  rw [perform, hcall]

/-- What a caller gets for a call tells what it leads to. -/
theorem call_of_perform {events : List Event} (h : (s.perform now c).2 = .ok events) :
    s.call now c = .ok ((s.perform now c).1, events) := by
  unfold Session.perform at h ⊢
  cases hcall : s.call now c with
  | error refusal => simp [hcall] at h
  | ok out =>
    simp only [hcall, Except.ok.injEq] at h
    rw [← h]

theorem perform_of_refused {refusal : Refusal} (hcall : s.call now c = .error refusal) :
    s.perform now c = (s, .error refusal) := by
  rw [perform, hcall]

/-- A call that is refused enters no node. -/
theorem enteredBy_of_refused {refusal : Refusal} (hcall : s.call now c = .error refusal) :
    s.enteredBy now c = [] := by
  have htwins : Twins s s.traced := ⟨_, _, _, rfl⟩
  have hsame := htwins.call now c
  rw [hcall] at hsame
  rw [enteredBy, Session.perform]
  generalize s.traced.call now c = o at hsame
  cases hsame with
  | refused => rfl

end Session

end Dialogue
