import Dialogue.Proofs.Session.Plan

/-!
# What a call does

A pass is opened in two ways (`Dialogue.Session.Opening`): a run begins at the start
node, which counts as entered, or an answer is given to a question, which does not.
`Dialogue.Session.Turn` says what a call that is not refused does: it resets the
session, opens a pass and travels along its route, or, in a session whose cursor names
no question of its flow, aborts. That is all a call can do
(`Dialogue.Session.turn_of_call`).
-/

namespace Dialogue

namespace Session

variable (s : Session) (now : String)

/-! ### Opening a pass -/

/-- **How a pass is opened**, by which call and where: at the node `origin`, which is
itself `counted` as entered or not. -/
inductive Opening (flow : Flow) :
    Call → (p : Progress) → (origin : Node) → (counted : Bool) → Prop
  /-- A run begins at the start node. -/
  | start (idle : s.state = .idle) : Opening flow (.start flow) (s.begun now flow) flow.start true
  /-- An answer is given to the question at which the session waits. -/
  | answer {origin : Node} {q : Question} {value : String} (waits : s.state = .awaitingInput)
      (loaded : s.flow = some flow) (stands : s.cursor = some origin.id)
      (known : flow.node? origin.id = some origin) (asks : origin.content = .question q) :
      Opening flow (.submit value) (s.answered origin.id q value) origin false

variable {s now} {flow : Flow} {c : Call} {p : Progress} {origin : Node} {counted : Bool}

namespace Opening

theorem node?_origin (h : Opening s now flow c p origin counted) :
    flow.node? origin.id = some origin := by
  cases h with
  | start idle => exact flow.node?_start
  | answer waits loaded stands known asks => exact known

/-- Opening a pass loads the flow, and shows nothing yet. -/
theorem spec (h : Opening s now flow c p origin counted) :
    p.events = [] ∧ p.session.flow = some flow ∧ p.session.settings = s.settings ∧
      p.session.observed = s.observed := by
  cases h with
  | start idle =>
    rw [begun_eq]
    exact ⟨rfl, rfl, rfl, rfl⟩
  | answer waits loaded stands known asks =>
    rw [answered_eq]
    exact ⟨rfl, loaded, rfl, rfl⟩

/-- **A pass that is opened travels along a route.** -/
theorem exists_route (h : Opening s now flow c p origin counted) :
    ∃ r : Route,
      flow.Leads p.session.store p.session.settings.maxAutoSteps origin r.transit r.ending ∧
        p.pass now flow origin.id (origin.seeds counted) =
          p.travel now flow origin r.transit r.ending :=
  ⟨_, flow.leads_route .., Progress.advance_eq_travel h.node?_origin now _ _ p⟩

/-- A pass that is opened leaves the flow loaded, and the settings as they are. -/
theorem spec_pass (h : Opening s now flow c p origin counted) :
    (p.pass now flow origin.id (origin.seeds counted)).session.flow = some flow ∧
      (p.pass now flow origin.id (origin.seeds counted)).session.settings = s.settings := by
  obtain ⟨-, hloaded, hsettings, -⟩ := h.spec
  obtain ⟨r, hleads, hmoved⟩ := h.exists_route
  rw [hmoved]
  exact ⟨(Progress.flow_travel hleads rfl now).trans hloaded,
    (Progress.settings_travel hleads rfl now).trans hsettings⟩

/-- **A call that opens a pass does it.** -/
theorem call_eq (h : Opening s now flow c p origin counted) :
    s.call now c = .ok (ofProgress (p.pass now flow origin.id (origin.seeds counted))) := by
  cases h with
  | start idle => simp [call, Session.start, idle, begun, Node.seeds]
  | answer waits loaded stands known asks =>
    have hwaiting : s.waiting .submitAnswer = .ok (flow, origin.id) :=
      waiting_eq_ok_iff.mpr ⟨waits, loaded, stands⟩
    have hok : flow.node origin.id = .ok origin := Flow.node_eq_ok_iff.mpr known
    have hq := Node.question?_eq_some_iff.mpr asks
    rw [call, submit, hwaiting]
    simp only [bind, Except.bind, hok, hq]
    rfl

end Opening

/-! ### Turns -/

/-- **What a call that is not refused does.** -/
inductive Turn (s : Session) (now : String) : Call → Session × List Event → Prop
  | reset : Turn s now .reset (s.reset, [])
  /-- A call that opens a pass. -/
  | direct {flow : Flow} {c : Call} {p : Progress} {origin : Node} {counted : Bool}
      (opening : Opening s now flow c p origin counted) :
      Turn s now c (ofProgress (p.pass now flow origin.id (origin.seeds counted)))
  /-- An option is picked: the answer is its value. -/
  | pick {flow : Flow} {picked value : String} {p : Progress} {origin : Node} {counted : Bool}
      (opening : Opening s now flow (.submit value) p origin counted) :
      Turn s now (.select picked) (ofProgress (p.pass now flow origin.id (origin.seeds counted)))
  /-- A new run on the flow started last. -/
  | again {flow : Flow} {p : Progress} {origin : Node} {counted : Bool}
      (loaded : s.flow = some flow)
      (opening : Opening s.reset now flow (.start flow) p origin counted) :
      Turn s now .restart (ofProgress (p.pass now flow origin.id (origin.seeds counted)))
  | lost {c : Call} {cursor : String} (h : Lost s cursor) :
      Turn s now c (ofProgress ((Progress.mk s []).abort now (.defect (.nodeNotFound cursor))))

variable {out : Session × List Event}

/-- **A call that is not refused takes its turn.** -/
theorem turn_of_call (h : s.call now c = .ok out) : Turn s now c out := by
  obtain ⟨plan, hplanned, hout⟩ := exists_planned_of_call h
  cases hplanned with
  | refuse c refusal => simp [Plan.carryOut] at hout
  | forget =>
    obtain rfl := Except.ok.inj hout
    exact Turn.reset
  | start idle =>
    obtain rfl := Except.ok.inj hout
    exact Turn.direct (Opening.start idle)
  | @restart flow loaded =>
    obtain rfl := Except.ok.inj hout
    rw [← begun_reset]
    exact Turn.again loaded (Opening.start rfl)
  | @answer c flow origin q value place gives =>
    obtain rfl := Except.ok.inj hout
    have hopening : Opening s now flow (.submit value) (s.answered origin.id q value) origin
        false :=
      Opening.answer place.waits place.loaded place.stands place.known place.asks
    cases c with
    | submit value' =>
      obtain rfl : value' = value := Option.some.inj gives
      exact Turn.direct hopening
    | select picked => exact Turn.pick hopening
    | _ => simp [Call.answerTo?] at gives
  | giveUp answers lost =>
    obtain rfl := Except.ok.inj hout
    exact Turn.lost lost

end Session

end Dialogue
