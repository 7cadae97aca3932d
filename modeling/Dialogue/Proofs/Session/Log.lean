import Dialogue.Proofs.Session.Coherence
import Dialogue.Proofs.Session.Passes
import Dialogue.Proofs.Trace.Path

/-!
# The trace of a session is a path

What a session notes from its start on is a log of steps
(`Dialogue.Session.Opening.logged_pass`): the two events that begin a run, or the answer to the
question that waits, and then the log of a pass, which leads from the node where the pass
sets out to the stage in which it leaves the session (`Dialogue.Flow.Leads.log`). So the
trace of a session that is not idle is a faithful record of its path
(`Dialogue.Session.faithful_performAll`).
-/

namespace Dialogue

/-! ### The log of a pass -/

namespace Flow

variable {flow : Flow} {store : Store} {current next : Node} {edge : Edge}

/-- Whatever is weighed at a node, the session stays there. -/
theorem log_of_weighed {notes : List TraceEvent} {n : Node}
    (h : ∀ e ∈ notes, e.weighedAt? = some n.id) : flow.Log (.standing n) notes (.standing n) := by
  induction notes with
  | nil => exact Log.nil
  | cons e notes ih =>
    obtain ⟨he, hnotes⟩ := List.forall_mem_cons.mp h
    exact Log.cons (Step.weigh he) (ih hnotes)

/-- Finding the next node leads away from the current one. -/
theorem log_of_next (h : (flow.resolve current store).1 = .ok (.next next edge)) :
    flow.Log (.standing current) (flow.resolve current store).2 (.leaving current next) := by
  obtain ⟨handle, notes, takes, hweighed, hlog⟩ := takes_of_next h
  rw [hlog]
  exact (log_of_weighed hweighed).append (Log.cons (Step.leave takes) Log.nil)

/-- Where no next node is found, the session stays. -/
theorem log_of_halted {r : Resolution} (h : (flow.resolve current store).1 = .ok r)
    (hnone : r.node? = none) :
    flow.Log (.standing current) (flow.resolve current store).2 (.standing current) := by
  have hfinds := finds_of_resolve h
  generalize (flow.resolve current store).2 = log at hfinds
  cases hfinds with
  | next weighed takes => simp [Resolution.node?] at hnone
  | endOfFlow last => exact Log.nil
  | unresolved weighed goesOn why => exact log_of_weighed weighed

/-- A node that halts the pass is entered, and closes it. -/
theorem log_of_arrival (hknown : flow.node? next.id = some next) (hhalts : next.haltsPass = true)
    (store : Store) :
    flow.Log (.leaving current next) (next.entry :: (next.closing store).closingLog)
      (.closedBy next (next.closing store)) := by
  obtain ⟨q, hq⟩ | ⟨message, hm⟩ := Node.haltsPass_cases hhalts
  · have hasks : next.question?.isSome = true := by
      simp [Node.question?_eq_some_iff.mpr hq]
    rw [Node.closing, hq]
    exact Log.cons (Step.ask hknown hasks) (Log.cons Step.suspend Log.nil)
  · have hasksNot : next.question? = none := by simp [Node.question?, hm]
    rw [Node.closing, hm]
    exact Log.cons (Step.enter hknown hasksNot) (Log.cons Step.complete Log.nil)

/-- **The log of a pass** leads from the node where the pass sets out to the stage in which
it leaves the session. -/
theorem Leads.log {limit : Nat} {r : Route}
    (h : flow.Leads store limit current r.transit r.ending) (policy : DeadEndPolicy) :
    flow.Log (.standing current)
      (flow.wayLog store current r.transit r.ending ++ (r.ending.closing policy store).closingLog)
      (.closedBy (r.last current) (r.ending.closing policy store)) := by
  obtain ⟨transit, ending⟩ := r
  dsimp only at h ⊢
  induction h with
  | @arrival current next edge found halts =>
    simp only [wayLog, Ending.arrived, List.map_cons, List.map_nil, List.append_assoc,
      List.singleton_append]
    exact (log_of_next found).append (log_of_arrival (node?_of_next found) halts store)
  | endOfFlow found =>
    simp only [wayLog, Ending.arrived, List.map_nil, List.append_nil]
    exact (log_of_halted found rfl).append (Log.cons Step.complete Log.nil)
  | unresolved found =>
    simp only [wayLog, Ending.arrived, List.map_nil, List.append_nil]
    refine (log_of_halted found rfl).append ?_
    cases policy with
    | complete => exact Log.cons Step.complete Log.nil
    | abort => exact Log.cons Step.abort Log.nil
  | stepLimit found | cycle found =>
    simp only [wayLog, Ending.arrived, List.map_nil, List.append_nil]
    exact (log_of_next found).append (Log.cons Step.stop Log.nil)
  | onward found passes rest ih =>
    have hasksNot := Node.question?_eq_none passes
    rw [Route.last_cons, wayLog, List.append_assoc, List.cons_append]
    exact (log_of_next found).append (Log.cons (Step.enter (node?_of_next found) hasksNot) ih)

end Flow

namespace Session

/-! ### The log of a session -/

/-- **A session that keeps a trace has noted a log of steps**, from its start up to a stage
that fits its state and its cursor. -/
structure Logged (s : Session) : Prop where
  keeps : s.settings.recordTrace = true
  log : s.state ≠ .idle → ∃ flow stage, s.flow = some flow ∧
    flow.Log .blank s.trace.events stage ∧ s.state = stage.state ∧
    s.cursor = stage.node?.map (·.id)

variable {s : Session} {p : Progress} {now : String} {flow : Flow} {c : Call} {origin : Node}
  {counted : Bool}

/-- A session that is closed is in the state of its stage. -/
theorem state_closed {e : Event} {n : Node} (h : s.state = .running) :
    (s.closed now e).state = (Stage.closedBy n e).state := by
  cases e with
  | message => exact h
  | _ => rfl

/-- What is noted when a pass is opened leads to the node where it sets out. -/
theorem Opening.log (h : Opening s now flow c p origin counted) (hlogged : Logged s) :
    flow.Log .blank p.session.trace.events (.standing origin) := by
  cases h with
  | start idle =>
    rw [begun_eq, Settings.events_noted, Settings.recorded_eq hlogged.keeps]
    exact Flow.Log.cons Flow.Step.begin (Flow.Log.cons Flow.Step.enterStart Flow.Log.nil)
  | @answer _ q value waits loaded stands known asks =>
    obtain ⟨flow', stage, hloaded, hlog, hstate, hcursor⟩ := hlogged.log (by simp [waits])
    obtain rfl := Option.some.inj (hloaded.symm.trans loaded)
    -- the question that waits is the one that is answered
    have hstage : stage = .waiting origin := by
      cases stage with
      | waiting n =>
        have hknown : flow'.node? n.id = some n := hlog.known (by simp [Stage.node?]) rfl
        have hid : n.id = origin.id := by simpa [Stage.node?, stands] using hcursor.symm
        rw [hid] at hknown
        rw [Option.some.inj (hknown.symm.trans known)]
      | _ => simp [Stage.state, waits] at hstate
    subst hstage
    rw [answered_eq, Settings.events_noted, Settings.recorded_eq hlogged.keeps]
    exact hlog.append (Flow.Log.cons (Flow.Step.answer asks) Flow.Log.nil)

/-- The state in which a pass is opened. -/
theorem Opening.running (h : Opening s now flow c p origin counted) :
    p.session.state = .running := by
  cases h with
  | start idle => rw [begun_eq]
  | answer waits loaded stands known asks => rw [answered_eq]

/-- **A pass that is opened leaves a log of steps.** -/
theorem Opening.logged_pass (h : Opening s now flow c p origin counted) (hlogged : Logged s) :
    Logged (ofProgress (p.pass now flow origin.id (origin.seeds counted))).1 := by
  obtain ⟨-, -, hopened, -⟩ := h.spec
  obtain ⟨hloaded, hsettings⟩ := h.spec_pass
  obtain ⟨r, hleads, hmoved⟩ := h.exists_route
  have hkeeps : p.session.settings.recordTrace = true := hopened ▸ hlogged.keeps
  refine ⟨hsettings ▸ hlogged.keeps, fun _ => ⟨flow, .closedBy (r.last origin)
    (r.ending.closing p.session.settings.deadEnd p.session.store), hloaded, ?_⟩⟩
  rw [hmoved]
  refine ⟨?_, ?_, ?_⟩
  · rw [ofProgress, Progress.traceEvents_travel hleads rfl now, Settings.recorded_eq hkeeps]
    exact (h.log hlogged).append (hleads.log p.session.settings.deadEnd)
  · rw [ofProgress, Progress.travel_eq hleads rfl]
    exact state_closed h.running
  · rw [ofProgress, Progress.cursor_travel hleads rfl h.cursor now, Stage.node?_closedBy]
    rfl

/-- **The trace of a session is a faithful record of its path.** Whatever calls are made to a
new session that keeps its trace: if it is not idle afterwards, then what it has noted since
its last start is a path through the flow that it holds. -/
theorem faithful_performAll {settings : Settings} (hkeeps : settings.recordTrace = true)
    (id : SessionId) {calls : List (String × Call)} {s : Session}
    (hs : s = ((Session.new settings id).performAll calls).1) (hstarted : s.state ≠ .idle) :
    ∃ flow, s.flow = some flow ∧ flow.Faithful s.trace.events s.state s.cursor := by
  have hlogged : Logged s := by
    rw [hs]
    exact passes_induction ⟨hkeeps, fun hstarted => absurd rfl hstarted⟩
      (fun _ h => ⟨h.keeps, fun hstarted => absurd rfl hstarted⟩)
      (fun opening h => opening.logged_pass h) calls
  obtain ⟨flow, stage, hloaded, hlog, hstate, hcursor⟩ := hlogged.log hstarted
  have hrests : Rests s := hs ▸ rests_performAll settings id calls
  have hrunning : s.state ≠ .running := hrests.coherent.not_running
  rw [hstate] at hstarted hrunning ⊢
  rw [hcursor]
  exact ⟨flow, hloaded, hlog.faithful hstarted hrunning⟩

/-- The trace of a session that has answered the first question of `Dialogue.Flow.gated`. -/
theorem faithful_performAll_gated :
    let s := ((Session.new default default).performAll
      [("now", .start .gated), ("later", .submit "yes")]).1
    s.state = .awaitingInput ∧
      s.trace.events = [.sessionStarted "start", .nodeEntered "start" .start,
        .edgeResolved "start" "age" none, .nodeEntered "age" .question, .suspended "age",
        .answerCommitted "age" "adult" "yes", .edgeResolved "age" "check" none,
        .nodeEntered "check" .condition,
        .ruleEvaluated "check" "adult" "equals" "yes" (some "yes") true,
        .ruleSetEvaluated "check" none true, .edgeResolved "check" "name" (some "true"),
        .nodeEntered "name" .question, .suspended "name"] ∧
      Flow.gated.Faithful s.trace.events s.state s.cursor := by
  intro s
  have hstate : s.state = .awaitingInput := by decide
  have hloaded : s.flow = some Flow.gated := by decide
  have hkeeps : (default : Settings).recordTrace = true := rfl
  obtain ⟨flow, hflow, hfaithful⟩ :=
    faithful_performAll hkeeps default (s := s) rfl (by simp [hstate])
  obtain rfl := Option.some.inj (hflow.symm.trans hloaded)
  exact ⟨hstate, by decide, hfaithful⟩

end Session

end Dialogue
