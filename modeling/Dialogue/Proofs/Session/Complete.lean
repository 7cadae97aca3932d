import Dialogue.Proofs.Flow.Complete
import Dialogue.Proofs.Session.Defects
import Dialogue.Proofs.Session.Findings
import Dialogue.Proofs.Session.Reach

/-!
# Runs through complete flows

A run through a complete flow has no dead ends (`Dialogue.Session.complete_run`): each of its
passes comes to a question or to an end, or is stopped because it goes round in circles or
takes too many steps. It does not matter what is answered, nor what the policy for dead ends
is.

The invariant of a run is that the node at which the session waits is within reach; the nodes
on the next route are so as well, and the flow being complete, a next node is found after each
of them.
-/

namespace Dialogue

/-- **The event closes a pass as it should**: with a question of the flow, at an end of it, or
because the pass was stopped. -/
inductive Flow.EndsWell (flow : Flow) : Event → Prop
  | question {n : Node} {q : Question} (known : flow.node? n.id = some n)
      (asks : n.content = .question q) :
      EndsWell flow (.question n.id q.text q.options q.variableName)
  | finish {n : Node} (values : StringMap String) (known : flow.node? n.id = some n)
      (ends : n.isEnd = true) : EndsWell flow (.completed values false (some n.id))
  | stopped {reason : Abort} (stops : reason.Stops) : EndsWell flow (.aborted reason)

/-- **A route through a complete flow** comes to a question or an end, or is stopped. -/
theorem Flow.Leads.exists_of_complete {flow : Flow} {store : Store} {limit : Nat} {current : Node}
    {transit : List Node} {ending : Ending} (h : flow.Leads store limit current transit ending)
    (hcomplete : flow.Complete) (hknown : flow.node? current.id = some current)
    (hreach : current.id ∈ flow.reachable) (hend : current.isEnd = false) :
    (∃ n, ending = .arrival n) ∨ ∃ reason, ending = .stopped reason := by
  induction h with
  | arrival found halts => exact Or.inl ⟨_, rfl⟩
  | stepLimit found | cycle found => exact Or.inr ⟨_, rfl⟩
  | endOfFlow found | unresolved found =>
    obtain ⟨next, edge, hnext⟩ := hcomplete.exists_next hknown hreach hend store
    simp [hnext] at found
  | @onward current next edge transit ending found passes rest ih =>
    have hnext : next.id ∈ flow.reachable :=
      (Leads.onward found passes rest).mem_reachable hreach next List.mem_cons_self
    exact ih (node?_of_next found) hnext (next.isEnd_eq_false passes)

/-- **A pass through a complete flow ends well.** -/
theorem Flow.Leads.endsWell {flow : Flow} {store : Store} {limit : Nat} {current : Node}
    {transit : List Node} {ending : Ending} (h : flow.Leads store limit current transit ending)
    (hcomplete : flow.Complete) (hknown : flow.node? current.id = some current)
    (hreach : current.id ∈ flow.reachable) (hend : current.isEnd = false)
    (policy : DeadEndPolicy) (values : Store) : flow.EndsWell (ending.closing policy values) := by
  obtain ⟨n, rfl⟩ | ⟨reason, rfl⟩ := h.exists_of_complete hcomplete hknown hreach hend
  · obtain ⟨hn, hhalts⟩ := h.arrival_node
    obtain ⟨q, hq⟩ | ⟨message, hm⟩ := Node.haltsPass_cases hhalts
    · rw [Ending.closing, Node.closing, hq]
      exact EndsWell.question hn hq
    · rw [Ending.closing, Node.closing, hm]
      exact EndsWell.finish _ hn (Node.isEnd_iff.mpr ⟨message, hm⟩)
  · exact EndsWell.stopped h.stops

/-- A call that begins a run answers no question. -/
theorem Call.SetsOut.not_answers {c : Call} (h : c.SetsOut) : ¬ c.Answers := by
  cases c with
  | start flow | restart => exact not_false
  | _ => exact h.elim

namespace Session

variable {s s' : Session} {now : String} {c : Call} {flow : Flow} {p : Progress} {origin : Node}
  {counted : Bool} {events : List Event} {out : Session × List Event}

/-! ### Sessions that have been started -/

/-- A pass leaves the session waiting only at a question. -/
theorem Outset.founded (h : Outset s now c flow p origin counted)
    (hcall : s.call now c = .ok (s', events)) : s'.Founded := by
  rw [h.call_eq_travel] at hcall
  obtain ⟨rfl, rfl⟩ := Prod.mk.inj (Except.ok.inj hcall)
  exact (closedBy_travel h.leads h.spec.2.2.2.1 now).founded

/-- **A session that has been started waits only at questions.** -/
theorem Launched.founded (h : Launched s) : s.Founded := by
  induction h with
  | @begun s s' now c events begins hcall =>
    rcases outset_or_stays hcall with ⟨flow, p, origin, counted, houtset⟩ |
      ⟨-, ⟨rfl, -⟩ | ⟨answers, -⟩⟩
    · exact houtset.founded hcall
    · exact begins.elim
    · exact absurd answers begins.not_answers
  | later now c h ih => exact (ih.perform now c).1

/-- **No pass sets out from an end.** -/
theorem Departs.isEnd_eq_false (h : Departs s c flow origin counted) : origin.isEnd = false := by
  cases h with
  | start begins => exact flow.start.isEnd_eq_false flow.haltsPass_start
  | answer answers waits loaded stands known asks => simp [Node.isEnd, Node.kind, asks]

/-! ### Runs -/

/-- **A run through a complete flow meets no dead end.** In a complete flow a next node is found
after every node within reach, whatever is stored, unless the node is an end. Let a session be
started, or have been started at some time, and be at such a flow after some call. Then the
call has not completed it early, nor aborted it because no edge could be followed: its last
event is a question of the flow, a completion at an end of it, or an abort because the pass
was stopped. The settings do not matter, nor do the answers. -/
theorem complete_run (hcomplete : flow.Complete) :
    (∀ n ∈ flow.nodes, n.id ∈ flow.reachable → n.isEnd = false → ∀ store,
      ∃ next edge, (flow.resolve n store).1 = .ok (.next next edge)) ∧
    ∀ (s s' : Session) (now : String) (c : Call) (events : List Event), s.Launched ∨ c.SetsOut →
      s.call now c = .ok (s', events) → s'.flow = some flow →
        (∀ values endNode, .completed values true endNode ∉ events) ∧
        (∀ reason, .aborted reason ∈ events → reason.Stops) ∧
        (c ≠ .reset → ∃ closing, events.getLast? = some closing ∧ flow.EndsWell closing) := by
  refine ⟨fun n hn hreach hend store => (hcomplete n hn hreach).exists_next hn hend store, ?_⟩
  intro s s' now c events hrun hcall hloaded
  rcases outset_or_stays hcall with ⟨flow', p, origin, counted, houtset⟩ |
    ⟨-, ⟨rfl, hnothing⟩ | ⟨answers, defect, hdefect⟩⟩
  · obtain ⟨hflow, -, -, rfl⟩ := houtset.lands hcall
    obtain rfl := Option.some.inj (hflow.symm.trans hloaded)
    have hdeparts := houtset.departs
    have hreach := hdeparts.mem_reachable (hrun.imp_left Launched.waitsWithin)
    have hends := houtset.leads.endsWell hcomplete hdeparts.known hreach hdeparts.isEnd_eq_false
      s.settings.deadEnd p.session.store
    refine ⟨fun values endNode hmem => ?_, fun reason hmem => ?_, fun _ => ⟨_, ?_, hends⟩⟩
    · rw [← Route.eq_closing_of_mem_shown hmem (by simp)] at hends
      cases hends
    · rw [← Route.eq_closing_of_mem_shown hmem (by simp)] at hends
      cases hends with
      | stopped stops => exact stops
    · rw [Route.shown, List.getLast?_concat]
  · obtain rfl : events = [] := hnothing
    simp
  · -- a session that has been started is never lost
    have hlaunched := hrun.resolve_right fun begins => begins.not_answers answers
    have hnone := (hlaunched.founded.perform now c).2 defect
    obtain rfl : events = [.aborted (.defect defect)] := hdefect
    rw [perform_of_ok hcall] at hnone
    exact absurd (List.mem_singleton.mpr rfl) hnone

/-- Two answers in `Dialogue.Flow.graded` that lead through both of its conditions and back to
its first question. -/
theorem complete_run_graded :
    let s := ((Session.new default default).performAll
      [("0", .start .graded), ("1", .submit "2")]).1
    ∃ s' events, s.Launched ∧ s.call "2" (.submit "no") = .ok (s', events) ∧
      s'.flow = some .graded ∧ s.enteredBy "2" (.submit "no") = ["agreed", "ask"] ∧
      (∀ values endNode, .completed values true endNode ∉ events) ∧
      ∃ closing, events.getLast? = some closing ∧ Flow.graded.EndsWell closing := by
  intro s
  have hstart : (Session.new default default).call "0" (.start .graded) =
      .ok (((Session.new default default).perform "0" (.start .graded)).1,
        [.question "ask" "How many?" [] "count"]) := rfl
  have hlaunched : s.Launched :=
    Launched.later "1" (.submit "2") (Launched.begun (c := .start .graded) trivial hstart)
  have hcall : s.call "2" (.submit "no") = .ok ((s.perform "2" (.submit "no")).1,
      [.question "ask" "How many?" [] "count"]) := rfl
  have hloaded : (s.perform "2" (.submit "no")).1.flow = some Flow.graded := by decide
  have hentered : s.enteredBy "2" (.submit "no") = ["agreed", "ask"] := by decide
  obtain ⟨hearly, -, hlast⟩ := (complete_run Flow.complete_graded).2 s _ "2" (.submit "no") _
    (Or.inl hlaunched) hcall hloaded
  exact ⟨_, _, hlaunched, hcall, hloaded, hentered, hearly, hlast (by simp)⟩

end Session

end Dialogue
