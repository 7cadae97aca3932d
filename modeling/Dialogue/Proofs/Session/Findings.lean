import Dialogue.Proofs.Pass.Endings
import Dialogue.Proofs.Session.Passes

/-!
# What a call finds

A call that begins a run or answers a question makes a pass, and the pass looks for the next
node again and again. What it finds each time can be told before the call is made
(`Dialogue.Session.findings`), because it depends on the flow, the store and the step limit
alone. A call that comes to no pass finds nothing.

The other end of it is what the call leaves (`Dialogue.Session.Outset.call_eq`): the session
is moved along its route and closed with the event that goes with the ending.
-/

namespace Dialogue

namespace Session

/-- **What a call finds** whenever it looks for the next node. -/
def findings (s : Session) (c : Call) : List (Except Defect Resolution) :=
  let found flow store origin counted :=
    Flow.findings flow store origin (flow.passRoute store s.settings.maxAutoSteps origin counted)
  match s.plan c with
  | .begin flow => found flow s.settings.newStore flow.start true
  | .answer flow node q value => found flow (s.store.set q.variableName value node.id) node false
  | .refuse _ | .forget | .giveUp _ => []

/-- **The call meets a dead end**: once when it looks for the next node, edges leave the node
to which it has come, but none can be followed. -/
def MeetsDeadEnd (s : Session) (c : Call) (reason : Abort) : Prop :=
  .ok (.unresolved reason) ∈ s.findings c

/-- **The call meets the end of the flow**: no edge leaves the node to which it has come. -/
def MeetsEnd (s : Session) (c : Call) : Prop :=
  .ok .endOfFlow ∈ s.findings c

/-- **The outset of a pass** that a call makes: how the session is when it leaves the node
`origin`, which is `counted` as entered or not. -/
inductive Outset (s : Session) (now : String) (c : Call) :
    Flow → Progress → (origin : Node) → (counted : Bool) → Prop
  | begin {flow : Flow} (h : s.plan c = .begin flow) :
    Outset s now c flow (s.begun now flow) flow.start true
  | answer {flow : Flow} {node : Node} {q : Question} {value : String}
      (h : s.plan c = .answer flow node q value) :
    Outset s now c flow (s.answered node.id q value) node false

variable {s : Session} {now : String} {c : Call} {flow : Flow} {p : Progress} {origin : Node}
  {counted : Bool}

/-- **A call that finds something makes a pass.** -/
theorem exists_outset {found : Except Defect Resolution} (h : found ∈ s.findings c)
    (now : String) : ∃ flow p origin counted, Outset s now c flow p origin counted := by
  rw [findings] at h
  rcases hplan : s.plan c with refusal | _ | flow | ⟨flow, node, q, value⟩ | cursor
  · simp [hplan] at h
  · simp [hplan] at h
  · exact ⟨_, _, _, _, Outset.begin hplan⟩
  · exact ⟨_, _, _, _, Outset.answer hplan⟩
  · simp [hplan] at h

/-- **A call that is not refused makes a pass**, or it is a reset, or an answer that has met
a defect; and then it finds nothing. -/
theorem outset_or_stays {out : Session × List Event} (hcall : s.call now c = .ok out) :
    (∃ flow p origin counted, Outset s now c flow p origin counted) ∨
      s.findings c = [] ∧ (c = .reset ∧ out.2 = [] ∨
        c.Answers ∧ ∃ defect, out.2 = [.aborted (.defect defect)]) := by
  rw [call_eq_carryOut] at hcall
  have hplanned := s.planned c
  rw [findings]
  rcases hplan : s.plan c with refusal | _ | flow | ⟨flow, node, q, value⟩ | cursor
  · simp [hplan, Plan.carryOut] at hcall
  · rw [hplan] at hcall hplanned
    obtain rfl := Except.ok.inj hcall
    cases hplanned with
    | forget => exact Or.inr ⟨rfl, Or.inl ⟨rfl, rfl⟩⟩
  · exact Or.inl ⟨_, _, _, _, Outset.begin hplan⟩
  · exact Or.inl ⟨_, _, _, _, Outset.answer hplan⟩
  · rw [hplan] at hcall hplanned
    obtain rfl := Except.ok.inj hcall
    cases hplanned with
    | giveUp answers lost =>
      refine Or.inr ⟨rfl, Or.inr ⟨answers, .nodeNotFound cursor, ?_⟩⟩
      rw [Progress.abort_eq]
      rfl

namespace Outset

/-- The route of the pass. -/
def route (flow : Flow) (p : Progress) (origin : Node) (counted : Bool) : Route :=
  flow.passRoute p.session.store p.session.settings.maxAutoSteps origin counted

/-- The session as it is at the outset holds the flow and has shown nothing. -/
theorem spec (h : Outset s now c flow p origin counted) :
    flow.node? origin.id = some origin ∧ p.events = [] ∧ p.session.settings = s.settings ∧
      p.session.flow = some flow ∧ p.session.cursor = some origin.id := by
  cases h with
  | begin h =>
    rw [begun_eq]
    exact ⟨flow.node?_start, rfl, rfl, rfl, rfl⟩
  | answer h =>
    have hplanned := h ▸ s.planned c
    rw [answered_eq]
    cases hplanned with
    | answer place gives => exact ⟨place.known, rfl, rfl, place.loaded, place.stands⟩

theorem leads (h : Outset s now c flow p origin counted) :
    flow.Leads p.session.store s.settings.maxAutoSteps origin
      (route flow p origin counted).transit (route flow p origin counted).ending := by
  rw [← h.spec.2.2.1]
  exact flow.leads_route ..

/-- The pass sets out at the start node, or at the question that is answered. -/
theorem departs (h : Outset s now c flow p origin counted) : Departs s c flow origin counted := by
  have hplanned := s.planned c
  cases h with
  | begin h =>
    rw [h] at hplanned
    cases hplanned with
    | start idle => exact Departs.start trivial
    | restart loaded => exact Departs.start trivial
  | answer h =>
    rw [h] at hplanned
    cases hplanned with
    | answer place gives =>
      have hanswers : ¬ c.SetsOut := by
        cases c with
        | submit | select => exact not_false
        | _ => simp [Call.answerTo?] at gives
      exact Departs.answer hanswers place.waits place.loaded place.stands place.known place.asks

/-- The call finds what is found on the route. -/
theorem findings_eq (h : Outset s now c flow p origin counted) :
    s.findings c = flow.findings p.session.store origin (route flow p origin counted) := by
  cases h with
  | begin h => simp only [findings, h, route, begun_eq]
  | answer h => simp only [findings, h, route, answered_eq]

/-- The pass meets a dead end exactly if it ends there. -/
theorem meetsDeadEnd_iff (h : Outset s now c flow p origin counted) {reason : Abort} :
    s.MeetsDeadEnd c reason ↔ (route flow p origin counted).ending = .unresolved reason := by
  rw [MeetsDeadEnd, h.findings_eq]
  exact h.leads.mem_findings_iff.2 reason

theorem meetsEnd_iff (h : Outset s now c flow p origin counted) :
    s.MeetsEnd c ↔ (route flow p origin counted).ending = .endOfFlow := by
  rw [MeetsEnd, h.findings_eq]
  exact h.leads.mem_findings_iff.1

/-- **The call travels along the route.** -/
theorem call_eq_travel (h : Outset s now c flow p origin counted) :
    s.call now c = .ok (ofProgress (p.travel now flow origin (route flow p origin counted).transit
      (route flow p origin counted).ending)) := by
  have hpass : s.call now c =
      .ok (ofProgress (p.pass now flow origin.id (origin.seeds counted))) := by
    rw [call_eq_carryOut]
    cases h with
    | begin h => rw [h, Plan.carryOut]
    | answer h => rw [h, Plan.carryOut]
  rw [hpass, Progress.pass, Progress.advance_eq_travel h.spec.1]
  rfl

/-- **The session is moved along the route and closed.** -/
theorem call_eq (h : Outset s now c flow p origin counted) :
    s.call now c = .ok (ofProgress
      ((p.along flow origin (route flow p origin counted).transit
        (route flow p origin counted).ending).close now
          ((route flow p origin counted).ending.closing s.settings.deadEnd p.session.store))) := by
  rw [h.call_eq_travel, Progress.travel_eq h.leads rfl, h.spec.2.2.1]

/-- **The call leaves the session at the last node on the route**, and shows the route. -/
theorem lands (h : Outset s now c flow p origin counted) {s' : Session} {events : List Event}
    (hcall : s.call now c = .ok (s', events)) :
    s'.flow = some flow ∧ s'.cursor = some ((route flow p origin counted).last origin).id ∧
      s'.store = p.session.store ∧
      events = (route flow p origin counted).shown s.settings.deadEnd p.session.store := by
  obtain ⟨-, hevents, hsettings, hloaded, hcursor⟩ := h.spec
  rw [h.call_eq_travel] at hcall
  obtain ⟨rfl, rfl⟩ := Prod.mk.inj (Except.ok.inj hcall)
  refine ⟨(Progress.flow_travel h.leads rfl now).trans hloaded,
    Progress.cursor_travel h.leads rfl hcursor now, Progress.store_travel h.leads rfl now, ?_⟩
  rw [Progress.events_travel h.leads rfl now, hevents, hsettings, List.nil_append]

/-- The last node on the route is the one at which the session stands. -/
theorem currentNode?_eq (h : Outset s now c flow p origin counted) {s' : Session}
    {events : List Event} (hcall : s.call now c = .ok (s', events)) :
    s'.currentNode? = some ((route flow p origin counted).last origin) := by
  obtain ⟨hflow, hcursor, -, -⟩ := h.lands hcall
  simp only [currentNode?, hflow, hcursor, Option.bind_some]
  rcases List.mem_cons.mp ((route flow p origin counted).last_mem origin) with hsame | hmem
  · rw [hsame]
    exact h.spec.1
  · exact h.leads.node?_of_mem _ hmem

end Outset

end Session

/-- A flow that takes any answer, but goes on from its condition for one of them only. -/
def Flow.oneSided : Flow where
  nodes := [⟨"start", .start⟩, ⟨"ask", .question ⟨"Go on?", [], "go", .empty⟩⟩,
    ⟨"noted", .message "Noted"⟩,
    ⟨"check", .condition (.simple ⟨.and, [⟨"go", .equals, "yes"⟩]⟩)⟩, ⟨"bye", .finish none⟩]
  edges := [⟨"first", "start", "ask", none⟩, ⟨"second", "ask", "noted", none⟩,
    ⟨"third", "noted", "check", none⟩, ⟨"fourth", "check", "bye", some "true"⟩]
  sound := by decide

end Dialogue
