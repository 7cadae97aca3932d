import Dialogue.Proofs.Flow.Reach
import Dialogue.Proofs.Session.Passes

/-!
# Runs stay within reach

What the search for reachable nodes finds bounds every run. A session that was started, in
whatever state it was before, enters only nodes that are reachable in its flow; and where
no end is reachable, it never completes at one (`Dialogue.Session.enters_reachable`). The
invariant of a run is that the node at which the session waits is reachable
(`Dialogue.Session.Launched.waitsWithin`); the next pass sets out from there.
-/

namespace Dialogue

/-- **The nodes on a route are reachable** if the node is from which it leads. -/
theorem Flow.Leads.mem_reachable {flow : Flow} {store : Store} {limit : Nat} {current : Node}
    {transit : List Node} {ending : Ending} (h : flow.Leads store limit current transit ending)
    (hcurrent : current.id ∈ flow.reachable) :
    ∀ n ∈ transit ++ ending.arrived, n.id ∈ flow.reachable := by
  have hnext : ∀ {m n : Node} {edge : Edge}, m.id ∈ flow.reachable →
      (flow.resolve m store).1 = .ok (.next n edge) → n.id ∈ flow.reachable := by
    intro m n edge hm hfound
    obtain ⟨hedge, htarget⟩ := (finds_of_resolve hfound).fits
    rw [id_of_node? htarget]
    exact target_mem_reachable hedge hm
  induction h with
  | arrival found halts =>
    intro n hn
    obtain rfl := List.mem_singleton.mp hn
    exact hnext hcurrent found
  | onward found passes rest ih =>
    exact List.forall_mem_cons.mpr ⟨hnext hcurrent found, ih (hnext hcurrent found)⟩
  | _ => simp [Ending.arrived]

/-- **A route that completes a session without ending it early arrives at an end.** -/
theorem Route.arrived_of_completed {flow : Flow} {limit : Nat} {origin : Node} {r : Route}
    {policy : DeadEndPolicy} {store : Store} {values : StringMap String} {endNode : Option String}
    (h : flow.Leads store limit origin r.transit r.ending)
    (hshown : .completed values false endNode ∈ r.shown policy store) :
    ∃ n ∈ r.entered, n ∈ flow.nodes ∧ n.isEnd = true := by
  have hclosing := r.eq_closing_of_mem_shown hshown (by simp)
  obtain ⟨transit, ending⟩ := r
  cases ending with
  | arrival n =>
    obtain ⟨hknown, hhalts⟩ := h.arrival_node
    obtain ⟨q, hq⟩ | hfinish := Node.haltsPass_cases hhalts
    · simp [Ending.closing, Node.closing, hq] at hclosing
    · exact ⟨n, by simp [Route.entered, Ending.arrived], (Flow.node?_eq_some_iff.mp hknown).1,
        Node.isEnd_iff.mpr hfinish⟩
  | endOfFlow => simp [Ending.closing] at hclosing
  | unresolved reason => cases policy <;> simp [Ending.closing] at hclosing
  | stopped reason => simp [Ending.closing] at hclosing

/-- A flow that asks for a name and says thanks, with an end that no edge leads to. -/
def Flow.cutOff : Flow where
  nodes := [⟨"start", .start⟩, ⟨"ask", .question ⟨"Your name?", [], "name", .empty⟩⟩,
    ⟨"thanks", .message "Thanks"⟩, ⟨"bye", .finish none⟩]
  edges := [⟨"first", "start", "ask", none⟩, ⟨"second", "ask", "thanks", none⟩]
  sound := by decide

namespace Session

/-- **A session that has been started**, or started again, at some time, and has got other
calls since. What it was before does not matter. -/
inductive Launched : Session → Prop
  | begun {s s' : Session} {now : String} {c : Call} {events : List Event} (begins : c.SetsOut)
      (hcall : s.call now c = .ok (s', events)) : Launched s'
  | later {s : Session} (now : String) (c : Call) (h : Launched s) : Launched (s.perform now c).1

/-- If the session waits, it waits at a reachable node of its flow. -/
def WaitsWithin (s : Session) : Prop :=
  s.state = .awaitingInput → ∀ flow id, s.flow = some flow → s.cursor = some id →
    id ∈ flow.reachable

variable {s s' : Session} {now : String} {c : Call} {events : List Event}
  {out : Session × List Event} {entered : List String} {flow : Flow} {origin : Node}
  {counted : Bool} {r : Route}

/-- A pass sets out from a reachable node. -/
theorem Departs.mem_reachable (h : Departs s c flow origin counted)
    (hrun : s.WaitsWithin ∨ c.SetsOut) : origin.id ∈ flow.reachable := by
  cases h with
  | start begins => exact flow.start_mem_reachable
  | answer answers waits loaded stands known asks =>
    exact hrun.resolve_right answers waits flow origin.id loaded stands

/-- The nodes on the route of a pass are reachable, and so is the node where it set out. -/
theorem Passes.mem_reachable (h : Passes s c out entered flow origin counted r)
    (hrun : s.WaitsWithin ∨ c.SetsOut) : ∀ n ∈ origin :: r.entered, n.id ∈ flow.reachable := by
  have horigin := h.departs.mem_reachable hrun
  exact List.forall_mem_cons.mpr ⟨horigin, h.leads.mem_reachable horigin⟩

/-- **The step of a run**: a session that waits at a reachable node, or is started, waits at
a reachable node again. -/
theorem waitsWithin_of_call (hrun : s.WaitsWithin ∨ c.SetsOut)
    (hcall : s.call now c = .ok (s', events)) : s'.WaitsWithin := by
  rcases passes_or_stays hcall with hstays | ⟨flow, origin, counted, r, hpasses⟩
  · exact fun waits => absurd waits hstays.waitsNot
  · intro _ flow' id hloaded hcursor
    obtain rfl := Option.some.inj (hpasses.loaded.symm.trans hloaded)
    obtain rfl := Option.some.inj (hpasses.cursor.symm.trans hcursor)
    exact hpasses.mem_reachable hrun _ (r.last_mem origin)

/-- **A session that has been started waits only at reachable nodes.** -/
theorem Launched.waitsWithin (h : Launched s) : s.WaitsWithin := by
  induction h with
  | begun begins hcall => exact waitsWithin_of_call (Or.inr begins) hcall
  | @later s now c h ih =>
    unfold perform
    split
    · next s' events hcall => exact waitsWithin_of_call (Or.inl ih) hcall
    · exact ih

/-- **A run stays within reach.** Whatever call is made to a session that has been started,
or starts it, and is not refused: each node that the call enters is reachable in the flow, so
that none is reported as unreachable; and where the lack of a reachable end is reported, the
call shows no completion other than an early one. -/
theorem enters_reachable (hrun : s.Launched ∨ c.SetsOut)
    (hcall : s.call now c = .ok (s', events)) (hloaded : s'.flow = some flow) :
    (∀ id ∈ s.enteredBy now c, id ∈ flow.reachable ∧ .unreachableNode id ∉ flow.warnings) ∧
      (.unreachableEnd ∈ flow.warnings →
        ∀ values endNode, .completed values false endNode ∉ events) := by
  rcases passes_or_stays hcall with hstays | ⟨flow', origin, counted, r, hpasses⟩
  · refine ⟨by simp [hstays.entered], fun _ values endNode => ?_⟩
    rcases hstays.shown with hnone | ⟨reason, habort⟩
    · simp [show events = [] from hnone]
    · simp [show events = [.aborted reason] from habort]
  obtain rfl := Option.some.inj (hpasses.loaded.symm.trans hloaded)
  have hreached := hpasses.mem_reachable (hrun.imp_left Launched.waitsWithin)
  constructor
  · intro id hid
    have hmem : id ∈ flow'.reachable := by
      rw [hpasses.entered] at hid
      rcases List.mem_append.mp hid with hseed | hentered
      · rw [Node.eq_of_mem_seeds hseed]
        exact hreached origin List.mem_cons_self
      · obtain ⟨n, hn, rfl⟩ := List.mem_map.mp hentered
        exact hreached n (List.mem_cons_of_mem _ hn)
    exact ⟨hmem, fun hwarned => (Flow.unreachableNode_mem_warnings.mp hwarned).2 hmem⟩
  · intro hwarned values endNode hshown
    rw [show events = _ from hpasses.shown] at hshown
    obtain ⟨n, hn, hnode, hend⟩ := Route.arrived_of_completed hpasses.leads hshown
    exact Flow.unreachableEnd_mem_warnings.mp hwarned n hnode hend
      (hreached n (List.mem_cons_of_mem _ hn))

/-- After the answer in `Dialogue.Flow.cutOff` a session enters one node and completes
early. -/
theorem enters_reachable_cutOff :
    let s := ((Session.new default default).performAll [("now", .start Flow.cutOff)]).1
    ∃ s' events, s.Launched ∧ s.call "later" (.submit "Ada") = .ok (s', events) ∧
      s'.flow = some Flow.cutOff ∧ s.enteredBy "later" (.submit "Ada") = ["thanks"] ∧
      Flow.cutOff.warnings = [.unreachableNode "bye", .unreachableEnd] ∧
      "thanks" ∈ Flow.cutOff.reachable ∧
      ∀ values endNode, .completed values false endNode ∉ events := by
  intro s
  have hstart : (Session.new default default).call "now" (.start Flow.cutOff) =
      .ok (s, [.question "ask" "Your name?" [] "name"]) := rfl
  have hlaunched : s.Launched := Launched.begun (c := .start Flow.cutOff) trivial hstart
  have hcall : s.call "later" (.submit "Ada") =
      .ok ((s.perform "later" (.submit "Ada")).1, [.message "thanks" "Thanks",
        .completed (StringMap.empty.insert "name" "Ada") true none]) := rfl
  have hloaded : (s.perform "later" (.submit "Ada")).1.flow = some Flow.cutOff := by decide
  have hentered : s.enteredBy "later" (.submit "Ada") = ["thanks"] := by decide
  have hexplored : explore
      [⟨"first", "start", "ask", none⟩, ⟨"second", "ask", "thanks", none⟩] ["start"] ["start"] =
        ["start", "ask", "thanks"] := by cbv
  have hreachable : Flow.cutOff.reachable = ["start", "ask", "thanks"] := hexplored
  have hwarnings : Flow.cutOff.warnings = [.unreachableNode "bye", .unreachableEnd] := by
    rw [Flow.warnings, hreachable]
    rfl
  obtain ⟨hnodes, hends⟩ := enters_reachable (Or.inl hlaunched) hcall hloaded
  exact ⟨_, _, hlaunched, hcall, hloaded, hentered, hwarnings,
    (hnodes "thanks" (by simp [hentered])).1, hends (by simp [hwarnings])⟩

end Session

end Dialogue
