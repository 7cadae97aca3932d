import Dialogue.Proofs.Pass.Walk
import Dialogue.Proofs.Session.Turn

/-!
# The passes of calls agree with walks

A pass that a call opens sets out from the start node or from the question that was
answered, with the store that the call has written
(`Dialogue.Session.Opening.setsOut`). What it enters, shows and notes is what the walk
from there under that store says (`Dialogue.Progress.pass_agrees_with_walk`).
-/

namespace Dialogue

/-- A pass that a call opens sets out where passes do. -/
theorem Session.Opening.setsOut {s : Session} {now : String} {flow : Flow} {c : Call}
    {p : Progress} {origin : Node} {counted : Bool} (h : Opening s now flow c p origin counted) :
    flow.Origin origin counted := by
  cases h with
  | start idle => exact Flow.Origin.start
  | answer waits loaded stands known asks => exact Flow.Origin.question known asks

/-- **A pass that is aborted for a cycle was stopped by the guard.** An edge that cannot
be followed aborts for other reasons. -/
theorem Flow.Leads.eq_cycle {flow : Flow} {store : Store} {limit : Nat} {current : Node}
    {transit : List Node} {ending : Ending} (h : flow.Leads store limit current transit ending)
    {policy : DeadEndPolicy} {values : Store} {id : String}
    (hclosing : ending.closing policy values = .aborted (.cycle id)) :
    ending = .stopped (.cycle id) := by
  induction h with
  | arrival found halts =>
    simp only [Ending.closing, Node.closing] at hclosing
    split at hclosing <;> simp at hclosing
  | endOfFlow found => simp [Ending.closing] at hclosing
  | @unresolved current reason found =>
    cases policy with
    | complete => simp [Ending.closing] at hclosing
    | abort =>
      obtain rfl : reason = .cycle id := by simpa [Ending.closing] using hclosing
      rcases reason_of_unresolved found with hall | ⟨handle, hno⟩
      · simp at hall
      · simp at hno
  | stepLimit found => simp [Ending.closing] at hclosing
  | cycle found => simpa [Ending.closing] using hclosing
  | onward found passes rest ih => exact ih hclosing

namespace Progress

variable {flow : Flow} {origin : Node} {counted : Bool}

/-- **A pass has taken a session along a route** from the node `origin`, from `p` to `q`:
it was moved along the nodes on it, has shown what is on the route, and has noted its nodes
as entered. -/
structure Took (now : String) (flow : Flow) (origin : Node) (r : Route) (p q : Progress) :
    Prop where
  moved : q = p.travel now flow origin r.transit r.ending
  shown : q.events = p.events ++ r.shown p.session.settings.deadEnd p.session.store
  noted : p.session.settings.recordTrace = true →
    q.session.trace.enteredNodes = p.session.trace.enteredNodes ++ r.entered.map (·.id)

/-- **A guarded pass agrees with the walk that has no guards**, under any store and any
settings. If it reports a cycle, the walk never stops. The calls that start a run or give
an answer do such a pass. -/
theorem pass_agrees_with_walk (h : flow.Origin origin counted) (p : Progress) (now : String) :
    ∃ r : Route,
      r.Agrees flow p.session.store p.session.settings.maxAutoSteps origin counted ∧
      Took now flow origin r p (p.pass now flow origin.id (origin.seeds counted)) ∧
      (∀ id, Event.aborted (.cycle id) ∈ r.shown p.session.settings.deadEnd p.session.store →
        ∀ k ending, ¬ flow.StopsAfter p.session.store origin k ending) ∧
      ∀ s c, Session.Opening s now flow c p origin counted → s.call now c =
        .ok (Session.ofProgress (p.pass now flow origin.id (origin.seeds counted))) := by
  have hagrees := h.agrees_passRoute p.session.store p.session.settings.maxAutoSteps
  have hleads := flow.leads_route p.session.store p.session.settings.maxAutoSteps origin
    (origin.seeds counted) p.session.settings.maxAutoSteps
  have hmoved := advance_eq_travel h.known now (origin.seeds counted)
    p.session.settings.maxAutoSteps p
  refine ⟨_, hagrees, ⟨hmoved, ?_, ?_⟩, ?_, fun s c hopening => hopening.call_eq⟩
  · rw [pass, hmoved]
    exact events_travel hleads rfl now
  · intro hrecord
    rw [pass, hmoved]
    exact enteredNodes_travel hleads rfl hrecord now
  · intro id hid
    rcases List.mem_append.mp hid with hmessage | hclosing
    · obtain ⟨n, -, hn⟩ := List.mem_flatMap.mp hmessage
      obtain ⟨text, htext⟩ := Node.eq_message_of_mem hn
      simp at htext
    · exact hagrees.endless id (hleads.eq_cycle (List.mem_singleton.mp hclosing).symm)

end Progress

/-- Started on `Dialogue.Flow.greeting`, a session follows a walk that stops after two
nodes. -/
theorem Progress.pass_agrees_with_walk_greeting :
    Flow.greeting.Origin Flow.greeting.start true ∧
      ∃ (r : Route) (q : Progress), r.entered.map (·.id) = ["hello", "ask"] ∧
        Took "now" Flow.greeting Flow.greeting.start r
          ((Session.new default default).begun "now" Flow.greeting) q ∧
        (Session.new default default).call "now" (.start Flow.greeting) =
          .ok (Session.ofProgress q) := by
  have hopening : Session.Opening (Session.new default default) "now" Flow.greeting
      (.start Flow.greeting) ((Session.new default default).begun "now" Flow.greeting)
      Flow.greeting.start true :=
    Session.Opening.start rfl
  obtain ⟨r, hagrees, htook, -, hcall⟩ := pass_agrees_with_walk hopening.setsOut
    ((Session.new default default).begun "now" Flow.greeting) "now"
  have hstops : Flow.greeting.StopsAfter .empty Flow.greeting.start 2 (.arrival
      ⟨"ask", .question ⟨"Your name?", [], "name", .empty⟩⟩) := by
    unfold Flow.StopsAfter
    decide
  have hentered : r.entered.map some =
      (List.range' 1 2).map (Flow.greeting.walk .empty Flow.greeting.start) :=
    (hagrees.stops 2 (by decide) _ hstops).1
  have hids : (r.entered.map (·.id)).map some = ["hello", "ask"].map some := by
    have hswap : (r.entered.map (·.id)).map some =
        (r.entered.map some).map (Option.map (·.id)) := by
      simp
    rw [hswap, hentered]
    decide
  exact ⟨hopening.setsOut, r, _, (List.map_inj_right fun _ _ => Option.some.inj).mp hids, htook,
    hcall _ _ hopening⟩

end Dialogue
