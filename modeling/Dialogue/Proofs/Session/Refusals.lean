import Dialogue.Proofs.Session.Defects
import Dialogue.Proofs.Session.Passes

/-!
# Refused calls

Which calls are refused, and for what reason, can be told from the state of a session, the
flow that it holds and the question that is pending (`Dialogue.Session.Due`). What is due is
what happens (`Dialogue.Session.Founded.call_eq_error_iff`).

A call that is refused leaves everything as it was. That is not a matter of course where a
session is written in place: what was written before the refusal would stay. And one call is
made in the course of another. To pick an option is to submit its value, which looks a second
time whether the session waits; to start again is to reset the session, and only then to start
it. `Dialogue.Session.callInPlace` carries out the calls in this way, one assignment after the
other. It comes to the same as `Dialogue.Session.perform`
(`Dialogue.Session.performInPlace_eq`), because no call that has written anything is refused
afterwards.
-/

namespace Dialogue

namespace Session

/-! ### When a refusal is due -/

/-- **The refusal that is due** for a call: the session is not in the state for it, the text
picks none of the options of the question that is pending, or there is no flow to start again
on. -/
inductive Due (s : Session) : Call → Refusal → Prop
  | start {flow : Flow} (busy : s.state ≠ .idle) : Due s (.start flow) (.wrongState .start s.state)
  | submit {value : String} (waitsNot : s.state ≠ .awaitingInput) :
    Due s (.submit value) (.wrongState .submitAnswer s.state)
  | select {picked : String} (waitsNot : s.state ≠ .awaitingInput) :
    Due s (.select picked) (.wrongState .selectOption s.state)
  | option {picked node : String} {q : Question} (stands : s.cursor = some node)
    (pending : s.pendingQuestion? = some q) (offers : q.options ≠ [])
    (unknown : ∀ o ∈ q.options, o.value ≠ picked ∧ o.id ≠ picked) :
    Due s (.select picked) (.unknownOption node picked)
  | restart (unloaded : s.flow = none) : Due s .restart (.wrongState .restart s.state)

end Session

/-- **A text is no answer** if the question offers options, and it is neither the value nor
the id of any of them. -/
theorem Question.pick?_eq_none_iff {q : Question} {picked : String} :
    q.pick? picked = none ↔
      q.options ≠ [] ∧ ∀ o ∈ q.options, o.value ≠ picked ∧ o.id ≠ picked := by
  unfold pick? findOption?
  rcases eq_or_ne q.options [] with hnone | hsome
  · simp [hnone]
  · rw [if_neg (by simpa using hsome)]
    simp only [Option.map_eq_none_iff, Option.or_eq_none_iff, List.find?_eq_none, beq_iff_eq]
    refine ⟨fun ⟨hvalues, hids⟩ => ⟨hsome, fun o ho => ⟨hvalues o ho, hids o ho⟩⟩, ?_⟩
    rintro ⟨-, hunknown⟩
    exact ⟨fun o ho => (hunknown o ho).1, fun o ho => (hunknown o ho).2⟩

/-- Only a plan to refuse is refused. -/
theorem Plan.carryOut_eq_error_iff {plan : Plan} {s : Session} {now : String} {refusal : Refusal} :
    plan.carryOut s now = .error refusal ↔ plan = .refuse refusal := by
  cases plan <;> simp [carryOut]

namespace Session

variable {s : Session} {now : String} {c : Call} {refusal : Refusal} {flow : Flow} {origin : Node}
  {q : Question}

/-- What a call that answers comes to in any state but the one in which the session waits. -/
theorem planAnswer_of_waitsNot (h : s.state ≠ .awaitingInput) (operation : Operation)
    (plan : Flow → Node → Question → Plan) :
    s.planAnswer operation plan = .refuse (.wrongState operation s.state) := by
  unfold planAnswer
  cases hw : s.waiting operation with
  | error refusal => rw [eq_of_waiting_eq_error hw]
  | ok place => exact absurd (waiting_eq_ok_iff.mp hw).1 h

/-- **A session that waits only at questions waits at one, or does not wait.** -/
theorem Founded.waitsNot_or_waitsAt (h : s.Founded) :
    s.state ≠ .awaitingInput ∨ ∃ flow origin q, s.WaitsAt flow origin q := by
  rcases eq_or_ne s.state .awaitingInput with waits | waitsNot
  · obtain ⟨q, hq⟩ := Option.isSome_iff_exists.mp (h waits)
    obtain ⟨flow, origin, hplace⟩ := exists_waitsAt hq
    exact Or.inr ⟨flow, origin, q, hplace⟩
  · exact Or.inl waitsNot

/-- A plan to refuse is due. -/
theorem Founded.due_of_plan (h : s.Founded) (hplan : s.plan c = .refuse refusal) :
    s.Due c refusal := by
  cases c with
  | start flow =>
    rcases eq_or_ne s.state .idle with idle | busy
    · simp [plan, idle] at hplan
    · rw [plan, if_neg busy] at hplan
      exact Plan.refuse.inj hplan ▸ Due.start busy
  | submit value =>
    rcases h.waitsNot_or_waitsAt with waitsNot | ⟨flow, origin, q, hplace⟩
    · rw [plan, planAnswer_of_waitsNot waitsNot] at hplan
      exact Plan.refuse.inj hplan ▸ Due.submit waitsNot
    · simp [plan, hplace.planAnswer_eq] at hplan
  | select picked =>
    rcases h.waitsNot_or_waitsAt with waitsNot | ⟨flow, origin, q, hplace⟩
    · rw [plan, planAnswer_of_waitsNot waitsNot] at hplan
      exact Plan.refuse.inj hplan ▸ Due.select waitsNot
    · rw [plan, hplace.planAnswer_eq] at hplan
      cases hpick : q.pick? picked with
      | some value => simp [hpick] at hplan
      | none =>
        obtain ⟨offers, unknown⟩ := Question.pick?_eq_none_iff.mp hpick
        simp only [hpick] at hplan
        exact Plan.refuse.inj hplan ▸
          Due.option hplace.stands hplace.pendingQuestion?_eq offers unknown
  | reset => simp [plan] at hplan
  | restart =>
    cases hflow : s.flow with
    | some flow => simp [plan, hflow] at hplan
    | none =>
      simp only [plan, hflow] at hplan
      exact Plan.refuse.inj hplan ▸ Due.restart hflow

/-- **A refusal that is due is the plan.** -/
theorem Due.plan_eq (h : s.Due c refusal) : s.plan c = .refuse refusal := by
  cases h with
  | start busy => rw [plan, if_neg busy]
  | submit waitsNot => rw [plan, planAnswer_of_waitsNot waitsNot]
  | select waitsNot => rw [plan, planAnswer_of_waitsNot waitsNot]
  | @option picked node q stands pending offers unknown =>
    obtain ⟨flow, origin, hplace⟩ := exists_waitsAt pending
    obtain rfl : origin.id = node := Option.some.inj (hplace.stands.symm.trans stands)
    have hpick : q.pick? picked = none := Question.pick?_eq_none_iff.mpr ⟨offers, unknown⟩
    simp only [plan, hplace.planAnswer_eq, hpick]
  | restart unloaded => rw [plan, unloaded]

/-- **A call is refused exactly if its refusal is due**, in a session that waits only at
questions. -/
theorem Founded.call_eq_error_iff (h : s.Founded) :
    s.call now c = .error refusal ↔ s.Due c refusal := by
  rw [call_eq_carryOut, Plan.carryOut_eq_error_iff]
  exact ⟨h.due_of_plan, Due.plan_eq⟩

/-! ### Calls in place -/

/-- What is done to a session in place: it may end with a refusal, and what was written before
that stays written. -/
abbrev InPlace := EStateM Refusal Session

section InPlace

variable (now : String)

/-- Moves on from what is written so far. -/
def proceed (move : Progress → Progress) : InPlace (List Event) := do
  let p := move ⟨← get, []⟩
  set p.session
  return p.events

/-- Starts the session in place. -/
def startInPlace (flow : Flow) : InPlace (List Event) := do
  let s ← get
  if s.state ≠ .idle then
    throw (.wrongState .start s.state)
  modify fun s => { s with flow := some flow }
  modify fun s => { s with store := s.settings.newStore }
  modify fun s => { s with trace := .new s.id.text }
  modify fun s => { s with trace.startedAt := some now }
  modify fun s => { s with abortReason := none }
  modify fun s => { s with endedEarly := false }
  modify fun s => { s with state := .running }
  proceed fun p =>
    ((p.record [.sessionStarted flow.start.id]).enter now flow.start).pass now flow flow.start.id
      [flow.start.id]

/-- Answers the pending question in place. -/
def submitInPlace (value : String) : InPlace (List Event) := do
  let s ← get
  match s.waiting .submitAnswer with
  | .error refusal => throw refusal
  | .ok (flow, cursor) =>
    match flow.node cursor with
    | .error defect => proceed (·.abort now (.defect defect))
    | .ok node =>
      match node.question? with
      | none => proceed (·.abort now (.defect (.nodeNotFound cursor)))
      | some q =>
        modify fun s => { s with store := s.store.set q.variableName value cursor }
        proceed fun p =>
          let p := p.record [.answerCommitted cursor q.variableName value]
          Progress.pass { p with session.state := .running } now flow cursor []

/-- Answers the pending question with one of its options in place: the value of the option is
submitted, for which the session is looked at again. -/
def selectInPlace (picked : String) : InPlace (List Event) := do
  let s ← get
  match s.waiting .selectOption with
  | .error refusal => throw refusal
  | .ok (flow, cursor) =>
    match (flow.node? cursor).bind Node.question? with
    | none => submitInPlace now picked
    | some q =>
      if q.options.isEmpty then
        submitInPlace now picked
      else
        match q.findOption? picked with
        | some option => submitInPlace now option.value
        | none => throw (.unknownOption cursor picked)

/-- Starts the session again in place: it is reset first, whatever becomes of the start. -/
def restartInPlace : InPlace (List Event) := do
  let s ← get
  match s.flow with
  | none => throw (.wrongState .restart s.state)
  | some flow =>
    modify reset
    startInPlace now flow

/-- **Carries out a call in place.** -/
def callInPlace : Call → InPlace (List Event)
  | .start flow => startInPlace now flow
  | .submit value => submitInPlace now value
  | .select picked => selectInPlace now picked
  | .reset => do
    modify reset
    return []
  | .restart => restartInPlace now

/-- What the outcome of a call leaves in place, where a refusal leaves the session `s`. -/
def leaves (s : Session) : Outcome → EStateM.Result Refusal Session (List Event)
  | .ok (next, events) => .ok events next
  | .error refusal => .error refusal s

end InPlace

/-- Carries out a call in place, with what the caller gets for it. -/
def performInPlace (s : Session) (now : String) (c : Call) :
    Session × Except Refusal (List Event) :=
  match (callInPlace now c).run s with
  | .ok events next => (next, .ok events)
  | .error refusal left => (left, .error refusal)

/-- The state is looked at before anything is written. -/
theorem run_startInPlace (s : Session) (now : String) (flow : Flow) :
    (startInPlace now flow).run s = leaves s (s.start now flow) := by
  unfold startInPlace start
  simp only [EStateM.run_bind, EStateM.run_get]
  rcases eq_or_ne s.state .idle with idle | busy
  · rw [if_neg (not_not_intro idle), if_neg (not_not_intro idle)]
    rfl
  · rw [if_pos busy, if_pos busy]
    rfl

/-- What is written is written after the session was seen to wait. -/
theorem run_submitInPlace (s : Session) (now value : String) :
    (submitInPlace now value).run s = leaves s (s.submit now value) := by
  unfold submitInPlace submit
  simp only [EStateM.run_bind, EStateM.run_get]
  rcases s.waiting .submitAnswer with refusal | ⟨flow, cursor⟩
  · rfl
  · simp only [bind, Except.bind]
    rcases flow.node cursor with defect | node
    · rfl
    · dsimp only
      rcases node.question? with _ | q
      · rfl
      · rfl

/-- Nothing is written between the first look at the session and the second. -/
theorem run_selectInPlace (s : Session) (now picked : String) :
    (selectInPlace now picked).run s = leaves s (s.select now picked) := by
  unfold selectInPlace select
  simp only [EStateM.run_bind, EStateM.run_get]
  rcases s.waiting .selectOption with refusal | ⟨flow, cursor⟩
  · rfl
  · simp only [bind, Except.bind]
    rcases (flow.node? cursor).bind Node.question? with _ | q
    · exact run_submitInPlace s now picked
    · dsimp only
      split_ifs with hfree
      · exact run_submitInPlace s now picked
      · rcases q.findOption? picked with _ | option
        · rfl
        · exact run_submitInPlace s now option.value

/-- A session that was reset is idle, so that it is started and not refused. -/
theorem run_restartInPlace (s : Session) (now : String) :
    (restartInPlace now).run s = leaves s (s.restart now) := by
  unfold restartInPlace restart
  simp only [EStateM.run_bind, EStateM.run_get]
  rcases s.flow with _ | flow
  · rfl
  · have hreset : (startInPlace now flow).run s.reset = leaves s.reset (s.reset.start now flow) :=
      run_startInPlace s.reset now flow
    exact hreset

theorem run_callInPlace (s : Session) (now : String) (c : Call) :
    (callInPlace now c).run s = leaves s (s.call now c) := by
  cases c with
  | start flow => exact run_startInPlace s now flow
  | submit value => exact run_submitInPlace s now value
  | select picked => exact run_selectInPlace s now picked
  | reset => rfl
  | restart => exact run_restartInPlace s now

/-- **Carrying out a call in place comes to the same.** -/
theorem performInPlace_eq (s : Session) (now : String) (c : Call) :
    s.performInPlace now c = s.perform now c := by
  rw [performInPlace, run_callInPlace, perform]
  rcases s.call now c with refusal | ⟨next, events⟩
  · rfl
  · rfl

/-- **Calls are refused exactly when that is due, and a call that is refused changes nothing.**
This holds after any calls, in every session, be it new or made from whatever snapshot can be
restored. Whatever is refused, the session is afterwards, in every part of it and with what
the observer has received, the one that it was before, although calls are carried out in
place. -/
theorem refused_iff_due {s : Session} (hmade : s.Made) (calls : List (String × Call))
    (now : String) (c : Call) (refusal : Refusal) :
    let t := (s.performAll calls).1
    (t.call now c = .error refusal ↔ t.Due c refusal) ∧
      t.performInPlace now c = t.perform now c ∧
      ∀ left, t.performInPlace now c = (left, .error refusal) ↔ t.Due c refusal ∧ left = t := by
  intro t
  have hdue : t.call now c = .error refusal ↔ t.Due c refusal :=
    (hmade.founded.performAll calls).1.call_eq_error_iff
  refine ⟨hdue, t.performInPlace_eq now c, fun left => ?_⟩
  rw [performInPlace_eq, ← hdue]
  constructor
  · intro hperform
    rcases hcall : t.call now c with refused | out
    · rw [perform_of_refused hcall] at hperform
      obtain ⟨rfl, hsame⟩ := Prod.mk.inj hperform
      obtain rfl := Except.error.inj hsame
      exact ⟨rfl, rfl⟩
    · rw [perform_of_ok hcall] at hperform
      exact absurd (Prod.mk.inj hperform).2 (by simp)
  · rintro ⟨hcall, rfl⟩
    exact perform_of_refused hcall

/-- A session that was restored at the first question of `Dialogue.Flow.gated`, is observed,
and has once refused to start. It takes neither of the two answers that follow: the one is
not an option, and after the other it is over. -/
theorem refused_iff_due_gated :
    let snap : Snapshot := ⟨default, .awaitingInput, some "age", .empty, false, none⟩
    ∃ s t t' : Session, Session.restore default .gated snap = .ok s ∧
      t = (s.withObserver.performAll [("0", .start .gated)]).1 ∧
      t.performInPlace "1" (.select "maybe") = (t, .error (.unknownOption "age" "maybe")) ∧
      t' = (s.withObserver.performAll [("0", .start .gated), ("1", .select "n")]).1 ∧
      t'.observed = some [.completed (StringMap.empty.insert "adult" "no") false (some "bye")] ∧
      t'.performInPlace "2" (.submit "no") =
        (t', .error (.wrongState .submitAnswer .completed)) := by
  intro snap
  obtain ⟨s, hs⟩ : ∃ s, Session.restore default .gated snap = .ok s := ⟨_, rfl⟩
  have hmade : s.withObserver.Made := (Made.restored hs).withObserver
  obtain rfl := Except.ok.inj hs
  refine ⟨_, _, _, hs, rfl, ?_, rfl, ?_, ?_⟩
  · have hfirst := refused_iff_due hmade [("0", .start .gated)] "1" (.select "maybe")
      (.unknownOption "age" "maybe")
    exact (hfirst.2.2 _).mpr ⟨hfirst.1.mp (by decide), rfl⟩
  · decide
  · have hsecond := refused_iff_due hmade [("0", .start .gated), ("1", .select "n")] "2"
      (.submit "no") (.wrongState .submitAnswer .completed)
    exact (hsecond.2.2 _).mpr ⟨hsecond.1.mp (by decide), rfl⟩

end Session

end Dialogue
