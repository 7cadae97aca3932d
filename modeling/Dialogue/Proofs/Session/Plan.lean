import Dialogue.Session.Call
import Dialogue.Proofs.Pass.Effect

/-!
# What a call comes to

Which calls are in place, and what they are about, is settled by the state of a session,
its flow and its cursor alone: they make a plan of the call (`Dialogue.Session.plan`). What
is carried out afterwards is one of a few things (`Dialogue.Plan.carryOut`): a run begins at
the start node of a flow (`Dialogue.Session.begun`), or an answer is stored
(`Dialogue.Session.answered`), and then the session passes on. A call is nothing but its
plan carried out (`Dialogue.Session.call_eq_carryOut`), and `Dialogue.Session.Planned` says
which plans there are for which calls.

Calls that look different come to the same plan. An option that is picked is an answer with
the value of the option (`Dialogue.Question.pick?`), and to start again is to begin a new
run on the flow that is held, since a run begins in the same way from wherever a session
was before (`Dialogue.Session.begun_reset`).
-/

namespace Dialogue

/-- The answer for which a picked text stands: the value of the option that it picks, or
the text itself if the question offers no options. -/
def Question.pick? (q : Question) (picked : String) : Option String :=
  if q.options.isEmpty then some picked else (q.findOption? picked).map (·.value)

/-- What a call answers to a question, if it does. -/
def Call.answerTo? (q : Question) : Call → Option String
  | .submit value => some value
  | .select picked => q.pick? picked
  | .start _ | .reset | .restart => none

/-- The calls that answer a question. -/
def Call.Answers : Call → Prop
  | .submit _ | .select _ => True
  | .start _ | .reset | .restart => False

theorem Call.answers_of_answerTo? {c : Call} {q : Question} {value : String}
    (h : c.answerTo? q = some value) : c.Answers := by
  cases c with
  | submit | select => trivial
  | _ => simp [answerTo?] at h

namespace Session

/-! ### Opening a pass -/

section Opening

variable (s : Session) (now : String)

/-- A session that has just entered the start node of a flow, at the beginning of a
run. -/
def begun (flow : Flow) : Progress :=
  let run : Session :=
    { s with
      flow := some flow
      store := s.settings.newStore
      trace := { Trace.new s.id.text with startedAt := some now }
      abortReason := none
      endedEarly := false
      state := .running }
  ((Progress.mk run []).record [.sessionStarted flow.start.id]).enter now flow.start

/-- A session that has just stored the answer to the question `q` at a node. -/
def answered (node : String) (q : Question) (value : String) : Progress :=
  let stored : Session := { s with store := s.store.set q.variableName value node }
  let p := (Progress.mk stored []).record [.answerCommitted node q.variableName value]
  { p with session.state := .running }

theorem begun_eq (flow : Flow) :
    s.begun now flow =
      ⟨{ s with
          flow := some flow
          state := .running
          cursor := some flow.start.id
          store := s.settings.newStore
          trace := s.settings.noted { Trace.new s.id.text with startedAt := some now }
            [.sessionStarted flow.start.id, flow.start.entry]
          abortReason := none
          endedEarly := false }, []⟩ := by
  have hmessages : flow.start.messages = [] := by simp [Node.messages, flow.content_start]
  unfold begun
  rw [Progress.enter_of_transit _ _ flow.haltsPass_start]
  simp [Progress.record_eq, Progress.visit, Settings.noted_append, Node.entry, hmessages]

theorem answered_eq (node : String) (q : Question) (value : String) :
    s.answered node q value =
      ⟨{ s with
          state := .running
          store := s.store.set q.variableName value node
          trace := s.settings.noted s.trace [.answerCommitted node q.variableName value] },
        []⟩ := by
  simp only [answered, Progress.record_eq]

/-- **A run begins in the same way wherever the session was before.** -/
theorem begun_reset (flow : Flow) : s.reset.begun now flow = s.begun now flow := by
  rw [begun_eq, begun_eq]
  rfl

end Opening

/-! ### Waiting -/

section Waiting

/-- The session waits at the question `q` of its flow. -/
structure WaitsAt (s : Session) (flow : Flow) (origin : Node) (q : Question) : Prop where
  waits : s.state = .awaitingInput
  loaded : s.flow = some flow
  stands : s.cursor = some origin.id
  known : flow.node? origin.id = some origin
  asks : origin.content = .question q

/-- The session holds a flow and waits at a node of it that is no question. No call
leads there; a session made by hand may be so. -/
def Lost (s : Session) (cursor : String) : Prop :=
  s.state = .awaitingInput ∧ s.cursor = some cursor ∧
    ∃ flow, s.flow = some flow ∧ ∀ n q, flow.node? cursor = some n → n.content ≠ .question q

variable {s : Session} {flow : Flow}

/-- A session waits when its state says so and flow and cursor are there. -/
theorem waiting_eq_ok_iff {operation : Operation} {cursor : String} :
    s.waiting operation = .ok (flow, cursor) ↔
      s.state = .awaitingInput ∧ s.flow = some flow ∧ s.cursor = some cursor := by
  unfold waiting
  constructor
  · intro h
    split at h
    · next f c hs hf hc =>
      obtain ⟨rfl, rfl⟩ : f = flow ∧ c = cursor := by simpa using h
      exact ⟨hs, hf, hc⟩
    · simp at h
  · rintro ⟨hs, hf, hc⟩
    rw [hs, hf, hc]

/-- What is asked of a session that does not wait is out of place. -/
theorem eq_of_waiting_eq_error {operation : Operation} {refusal : Refusal}
    (h : s.waiting operation = .error refusal) : refusal = .wrongState operation s.state := by
  unfold waiting at h
  split at h
  · simp at h
  · exact (Except.error.inj h).symm

/-- Where a session waits, the question that is pending is the one at its cursor. -/
theorem pendingQuestion?_of_waiting {operation : Operation} {cursor : String}
    (h : s.waiting operation = .ok (flow, cursor)) :
    s.pendingQuestion? = (flow.node? cursor).bind Node.question? := by
  obtain ⟨waits, loaded, stands⟩ := waiting_eq_ok_iff.mp h
  rw [pendingQuestion?, if_pos waits, currentNode?, loaded, stands]
  rfl

/-- The question at which a session waits is pending. -/
theorem WaitsAt.pendingQuestion?_eq {origin : Node} {q : Question} (h : s.WaitsAt flow origin q) :
    s.pendingQuestion? = some q := by
  simp [pendingQuestion?, currentNode?, h.waits, h.loaded, h.stands, h.known,
    Node.question?_eq_some_iff.mpr h.asks]

/-- **Where a question is pending, the session waits at it.** -/
theorem exists_waitsAt {q : Question} (h : s.pendingQuestion? = some q) :
    ∃ flow origin, s.WaitsAt flow origin q := by
  unfold pendingQuestion? currentNode? at h
  split at h
  · next waits =>
    obtain ⟨origin, hcurrent, hasks⟩ := Option.bind_eq_some_iff.mp h
    obtain ⟨flow, loaded, hstands⟩ := Option.bind_eq_some_iff.mp hcurrent
    obtain ⟨cursor, stands, known⟩ := Option.bind_eq_some_iff.mp hstands
    obtain rfl := Flow.id_of_node? known
    exact ⟨flow, origin, waits, loaded, stands, known, Node.question?_eq_some_iff.mp hasks⟩
  · simp at h

/-- No question is pending where a session is lost. -/
theorem Lost.pendingQuestion?_eq {cursor : String} (h : Lost s cursor) :
    s.pendingQuestion? = none := by
  obtain ⟨waits, stands, flow, loaded, hno⟩ := h
  rw [pendingQuestion?, if_pos waits, currentNode?, loaded, stands]
  refine Option.bind_eq_none_iff.mpr fun n hn => ?_
  cases hq : n.question? with
  | none => rfl
  | some q => exact absurd (Node.question?_eq_some_iff.mp hq) (hno n q hn)

/-- Whether a session waits does not depend on who asks. -/
theorem waiting_eq_ok (operation operation' : Operation) {cursor : String}
    (h : s.waiting operation = .ok (flow, cursor)) :
    s.waiting operation' = .ok (flow, cursor) :=
  waiting_eq_ok_iff.mpr (waiting_eq_ok_iff.mp h)

end Waiting

end Session

/-! ### Plans -/

/-- **What a call comes to.** -/
inductive Plan
  /-- It is refused. -/
  | refuse (refusal : Refusal)
  /-- The session goes back to idle. -/
  | forget
  /-- A new run begins on a flow. -/
  | begin (flow : Flow)
  /-- The question `q` at a node of the flow is answered. -/
  | answer (flow : Flow) (node : Node) (q : Question) (value : String)
  /-- The cursor of a session that waits names no question, and the session is aborted. -/
  | giveUp (cursor : String)

namespace Session

/-- The plan for a question that waits, or what becomes of the call if none does. -/
def planAnswer (s : Session) (operation : Operation) (plan : Flow → Node → Question → Plan) :
    Plan :=
  match s.waiting operation with
  | .error refusal => .refuse refusal
  | .ok (flow, cursor) =>
    match flow.node? cursor with
    | none => .giveUp cursor
    | some node =>
      match node.question? with
      | none => .giveUp cursor
      | some q => plan flow node q

/-- **The plan of a call**, as state, flow and cursor of the session settle it. -/
def plan (s : Session) : Call → Plan
  | .start flow => if s.state = .idle then .begin flow else .refuse (.wrongState .start s.state)
  | .submit value => s.planAnswer .submitAnswer fun flow node q => .answer flow node q value
  | .select picked => s.planAnswer .selectOption fun flow node q =>
      match q.pick? picked with
      | some value => .answer flow node q value
      | none => .refuse (.unknownOption node.id picked)
  | .reset => .forget
  | .restart =>
    match s.flow with
    | some flow => .begin flow
    | none => .refuse (.wrongState .restart s.state)

end Session

/-- **What is done to carry out a plan.** -/
def Plan.carryOut (s : Session) (now : String) : Plan → Session.Outcome
  | refuse refusal => .error refusal
  | forget => .ok (s.reset, [])
  | begin flow =>
    .ok (Session.ofProgress
      ((s.begun now flow).pass now flow flow.start.id (flow.start.seeds true)))
  | answer flow node q value =>
    .ok (Session.ofProgress
      ((s.answered node.id q value).pass now flow node.id (node.seeds false)))
  | giveUp cursor =>
    .ok (Session.ofProgress ((Progress.mk s []).abort now (.defect (.nodeNotFound cursor))))

namespace Session

variable {s : Session} {now : String} {flow : Flow} {node : Node} {q : Question}

/-- Answering comes to the plan for the question that waits. -/
theorem submit_eq_carryOut (s : Session) (now value : String) :
    s.submit now value = (s.plan (.submit value)).carryOut s now := by
  rw [submit, plan, planAnswer]
  cases hw : s.waiting .submitAnswer with
  | error refusal => rfl
  | ok place =>
    obtain ⟨flow, cursor⟩ := place
    simp only [bind, Except.bind]
    cases hn : flow.node? cursor with
    | none => simp only [Flow.node, hn]; rfl
    | some node =>
      obtain rfl := Flow.id_of_node? hn
      simp only [Flow.node, hn]
      cases hq : node.question? with
      | none => rfl
      | some q => rfl

/-- Picking comes to the plan for the question that waits. -/
theorem select_eq_carryOut (s : Session) (now picked : String) :
    s.select now picked = (s.plan (.select picked)).carryOut s now := by
  rw [select, plan, planAnswer]
  cases hw : s.waiting .selectOption with
  | error refusal => rfl
  | ok place =>
    obtain ⟨flow, cursor⟩ := place
    -- where no option is looked for, the text is submitted as it is
    have hsubmit : ∀ value, s.submit now value = _ := s.submit_eq_carryOut now
    simp only [bind, Except.bind, plan, planAnswer, waiting_eq_ok _ .submitAnswer hw] at hsubmit ⊢
    cases hn : flow.node? cursor with
    | none => simpa [hn] using hsubmit picked
    | some node =>
      obtain rfl := Flow.id_of_node? hn
      simp only [hn, Option.bind_some] at hsubmit ⊢
      cases hq : node.question? with
      | none => simpa [hq] using hsubmit picked
      | some q =>
        simp only [hq] at hsubmit ⊢
        unfold Question.pick?
        cases he : q.options.isEmpty with
        | true => simpa using hsubmit picked
        | false =>
          cases ho : q.findOption? picked with
          | none => rfl
          | some option => simpa [ho] using hsubmit option.value

/-- **A call is its plan carried out.** -/
theorem call_eq_carryOut (s : Session) (now : String) (c : Call) :
    s.call now c = (s.plan c).carryOut s now := by
  cases c with
  | start flow =>
    by_cases idle : s.state = .idle
    · simp [call, start, plan, Plan.carryOut, begun, Node.seeds, idle]
    · simp [call, start, plan, Plan.carryOut, idle]
  | submit value => exact s.submit_eq_carryOut now value
  | select picked => exact s.select_eq_carryOut now picked
  | reset => rfl
  | restart =>
    rw [call, restart, plan]
    cases hf : s.flow with
    | none => rfl
    | some flow =>
      simp only [Plan.carryOut]
      rw [← begun_reset]
      rfl

/-! ### What a plan says -/

/-- **The plans that there are**, with what they say of the session and of the call. -/
inductive Planned (s : Session) : Call → Plan → Prop
  | refuse (c : Call) (refusal : Refusal) : Planned s c (.refuse refusal)
  | forget : Planned s .reset .forget
  | start {flow : Flow} (idle : s.state = .idle) : Planned s (.start flow) (.begin flow)
  | restart {flow : Flow} (loaded : s.flow = some flow) : Planned s .restart (.begin flow)
  | answer {c : Call} {flow : Flow} {origin : Node} {q : Question} {value : String}
      (place : s.WaitsAt flow origin q) (gives : c.answerTo? q = some value) :
      Planned s c (.answer flow origin q value)
  | giveUp {c : Call} {cursor : String} (answers : c.Answers) (lost : Lost s cursor) :
      Planned s c (.giveUp cursor)

/-- A plan for a question is made where the session waits at it. -/
theorem planned_planAnswer (c : Call) (hc : c.Answers) (operation : Operation)
    {plan : Flow → Node → Question → Plan}
    (hplan : ∀ flow origin q, s.WaitsAt flow origin q → Planned s c (plan flow origin q)) :
    Planned s c (s.planAnswer operation plan) := by
  unfold planAnswer
  cases hw : s.waiting operation with
  | error refusal => exact Planned.refuse c refusal
  | ok place =>
    obtain ⟨flow, cursor⟩ := place
    obtain ⟨waits, loaded, stands⟩ := waiting_eq_ok_iff.mp hw
    cases hn : flow.node? cursor with
    | none =>
      have hno : ∀ n q, flow.node? cursor = some n → n.content ≠ .question q := by
        simp [hn]
      simpa only [hn] using Planned.giveUp hc ⟨waits, stands, flow, loaded, hno⟩
    | some node =>
      obtain rfl := Flow.id_of_node? hn
      cases hq : node.question? with
      | none =>
        have hno : ∀ n q, flow.node? node.id = some n → n.content ≠ .question q := by
          intro n q hnode hcontent
          obtain rfl : node = n := by simpa [hn] using hnode
          simp [Node.question?_eq_some_iff.mpr hcontent] at hq
        simpa only [hn, hq] using Planned.giveUp hc ⟨waits, stands, flow, loaded, hno⟩
      | some q =>
        simpa only [hn, hq] using
          hplan flow node q ⟨waits, loaded, stands, hn, Node.question?_eq_some_iff.mp hq⟩

/-- **There are no other plans.** -/
theorem planned (s : Session) (c : Call) : Planned s c (s.plan c) := by
  cases c with
  | start flow =>
    by_cases idle : s.state = .idle
    · simpa only [plan, if_pos idle] using Planned.start idle
    · simpa only [plan, if_neg idle] using Planned.refuse _ _
  | submit value =>
    exact planned_planAnswer (.submit value) trivial _ fun flow origin q place =>
      Planned.answer place rfl
  | select picked =>
    refine planned_planAnswer (.select picked) trivial _ fun flow origin q place => ?_
    cases hp : q.pick? picked with
    | none => exact Planned.refuse _ _
    | some value => exact Planned.answer place hp
  | reset => exact Planned.forget
  | restart =>
    cases hf : s.flow with
    | none => simpa only [plan, hf] using Planned.refuse _ _
    | some flow => simpa only [plan, hf] using Planned.restart hf

/-- **A call that is not refused carries out a plan.** -/
theorem exists_planned_of_call {c : Call} {out : Session × List Event}
    (h : s.call now c = .ok out) :
    ∃ plan, Planned s c plan ∧ plan.carryOut s now = .ok out :=
  ⟨s.plan c, s.planned c, (s.call_eq_carryOut now c).symm.trans h⟩

/-- What a call that answers comes to where a question waits. -/
theorem WaitsAt.planAnswer_eq (h : s.WaitsAt flow node q) (operation : Operation)
    (plan : Flow → Node → Question → Plan) : s.planAnswer operation plan = plan flow node q := by
  have hwaiting : s.waiting operation = .ok (flow, node.id) :=
    waiting_eq_ok_iff.mpr ⟨h.waits, h.loaded, h.stands⟩
  simp only [planAnswer, hwaiting, h.known, Node.question?_eq_some_iff.mpr h.asks]

/-- **A call that answers the question at which the session waits comes to its answer.** -/
theorem WaitsAt.plan_eq {c : Call} {value : String} (h : s.WaitsAt flow node q)
    (hgives : c.answerTo? q = some value) : s.plan c = .answer flow node q value := by
  cases c with
  | submit value' =>
    obtain rfl : value' = value := Option.some.inj hgives
    rw [plan, h.planAnswer_eq]
  | select picked =>
    have hpick : q.pick? picked = some value := hgives
    simp only [plan, h.planAnswer_eq, hpick]
  | _ => simp [Call.answerTo?] at hgives

/-- A plan depends on the state, the flow and the cursor alone. -/
theorem plan_congr {s' : Session} (hstate : s'.state = s.state) (hflow : s'.flow = s.flow)
    (hcursor : s'.cursor = s.cursor) (c : Call) : s'.plan c = s.plan c := by
  cases c <;> simp only [plan, planAnswer, waiting, hstate, hflow, hcursor]

end Session

end Dialogue
