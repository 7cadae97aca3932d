import Dialogue.Proofs.Session.Findings

/-!
# Dead ends and the end of a flow

Two things keep a pass from going on. Edges may leave the node to which it has come, but none
of them can be followed: this is a dead end, and the policy decides what becomes of the
session. Or no edge leaves the node: then the flow ends there, and the session completes
early whatever the policy. So a session that aborts at dead ends completes early at nodes that
no edge leaves, and nowhere else (`Dialogue.Session.ends_under_abort`).

It does not matter for this of what kind the node is. A condition that no edge leaves ends the
flow as any other node does, before its rules are evaluated
(`Dialogue.Session.completes_at_condition_blindAlley`).
-/

namespace Dialogue

namespace Session

variable {s s' : Session} {now : String} {c : Call} {events : List Event}

/-- **A call completes the session early** if it meets the end of the flow, or a dead end
where the policy says so. -/
theorem completes_early_iff (hcall : s.call now c = .ok (s', events)) :
    (∃ values endNode, .completed values true endNode ∈ events) ↔
      s.MeetsEnd c ∨ s.settings.deadEnd = .complete ∧ ∃ reason, s.MeetsDeadEnd c reason := by
  rcases outset_or_stays hcall with ⟨flow, p, origin, counted, houtset⟩ | ⟨hnone, hshown⟩
  · obtain ⟨-, -, -, rfl⟩ := houtset.lands hcall
    simp only [houtset.meetsEnd_iff, houtset.meetsDeadEnd_iff]
    constructor
    · rintro ⟨values, endNode, hmem⟩
      have hclosing := Route.eq_closing_of_mem_shown hmem (by simp)
      exact (Ending.closing_eq_early_iff.mp hclosing.symm).2
    · intro hending
      have hclosing : (Outset.route flow p origin counted).ending.closing s.settings.deadEnd
          p.session.store = .completed p.session.store.values true none :=
        Ending.closing_eq_early_iff.mpr ⟨⟨rfl, rfl⟩, hending⟩
      exact ⟨_, _, List.mem_append_right _ (List.mem_singleton.mpr hclosing.symm)⟩
  · have hempty : ¬ s.MeetsEnd c ∧ ∀ reason, ¬ s.MeetsDeadEnd c reason := by
      simp [MeetsEnd, MeetsDeadEnd, hnone]
    rcases hshown with ⟨-, hnothing⟩ | ⟨-, defect, hdefect⟩
    · obtain rfl : events = [] := hnothing
      simp [hempty]
    · obtain rfl : events = [.aborted (.defect defect)] := hdefect
      simp [hempty]

/-- **Where the flow ends**, no edge leaves the node to which the session has come. -/
theorem MeetsEnd.outgoing_eq_nil (h : s.MeetsEnd c) (hcall : s.call now c = .ok (s', events)) :
    ∃ flow n, s'.flow = some flow ∧ s'.currentNode? = some n ∧ flow.outgoing n.id = [] := by
  obtain ⟨flow, p, origin, counted, houtset⟩ := exists_outset h now
  have hfound := houtset.leads.resolve_last.1 (houtset.meetsEnd_iff.mp h)
  exact ⟨flow, _, (houtset.lands hcall).1, houtset.currentNode?_eq hcall,
    (Flow.finds_of_resolve hfound).fits⟩

/-- **At a dead end**, edges leave the node to which the session has come, but none can be
followed, for the reason that was found. -/
theorem MeetsDeadEnd.resolve_eq {reason : Abort} (h : s.MeetsDeadEnd c reason)
    (hcall : s.call now c = .ok (s', events)) :
    ∃ flow n, s'.flow = some flow ∧ s'.currentNode? = some n ∧ flow.outgoing n.id ≠ [] ∧
      (flow.resolve n s'.store).1 = .ok (.unresolved reason) := by
  obtain ⟨flow, p, origin, counted, houtset⟩ := exists_outset h now
  obtain ⟨hflow, -, hstore, -⟩ := houtset.lands hcall
  have hfound := houtset.leads.resolve_last.2 reason (houtset.meetsDeadEnd_iff.mp h)
  exact ⟨flow, _, hflow, houtset.currentNode?_eq hcall, (Flow.finds_of_resolve hfound).fits.1,
    hstore ▸ hfound⟩

/-- **A dead end aborts the session** if the policy says so. -/
theorem MeetsDeadEnd.aborts {reason : Abort} (h : s.MeetsDeadEnd c reason)
    (hpolicy : s.settings.deadEnd = .abort) (hcall : s.call now c = .ok (s', events)) :
    s'.state = .aborted ∧ s'.abortReason = some reason ∧
      events.getLast? = some (.aborted reason) := by
  obtain ⟨flow, p, origin, counted, houtset⟩ := exists_outset h now
  obtain ⟨-, -, -, hshown⟩ := houtset.lands hcall
  rw [Route.shown, houtset.meetsDeadEnd_iff.mp h, hpolicy] at hshown
  have hlast : events.getLast? = some (.aborted reason) := by simp [hshown, Ending.closing]
  obtain ⟨hstate, hreason⟩ := (turn_of_call hcall).closedBy_of_mem
    (List.mem_of_getLast? hlast) (by simp)
  exact ⟨hstate, hreason, hlast⟩

/-- **A session that aborts at dead ends completes early only where no edge leaves a node.**
Whatever call is made to it: the call completes it early exactly if it meets the end of the
flow, and then no edge leaves the node that was entered last. So this node is a condition only
if the condition has no edges. Where edges leave a node, be it a condition or not, but none
can be followed, the call ends with the abort of the session, for the reason that was
found. -/
theorem ends_under_abort (hpolicy : s.settings.deadEnd = .abort)
    (hcall : s.call now c = .ok (s', events)) :
    ((∃ values endNode, .completed values true endNode ∈ events) ↔ s.MeetsEnd c) ∧
      (s.MeetsEnd c → ∃ flow n, s'.flow = some flow ∧ s'.currentNode? = some n ∧
        flow.outgoing n.id = []) ∧
      ∀ reason, s.MeetsDeadEnd c reason →
        (s'.state = .aborted ∧ s'.abortReason = some reason ∧
          events.getLast? = some (.aborted reason)) ∧
        ∃ flow n, s'.flow = some flow ∧ s'.currentNode? = some n ∧ flow.outgoing n.id ≠ [] ∧
          (flow.resolve n s'.store).1 = .ok (.unresolved reason) := by
  have hearly := completes_early_iff hcall
  rw [hpolicy] at hearly
  refine ⟨by simpa using hearly, ?_, ?_⟩
  · intro hend
    exact hend.outgoing_eq_nil hcall
  · intro reason hmeets
    exact ⟨hmeets.aborts hpolicy hcall, hmeets.resolve_eq hcall⟩

/-- The answer for which `Dialogue.Flow.oneSided` has no edge aborts the session. -/
theorem ends_under_abort_oneSided :
    let settings : Settings := { (default : Settings) with deadEnd := .abort }
    let s := ((Session.new settings default).performAll [("0", .start .oneSided)]).1
    ∃ s' events, s.call "1" (.submit "no") = .ok (s', events) ∧
      s.MeetsDeadEnd (.submit "no") (.noEdge "check" (some "false")) ∧
      s'.abortReason = some (.noEdge "check" (some "false")) ∧
      events.getLast? = some (.aborted (.noEdge "check" (some "false"))) ∧
      ∀ values endNode, .completed values true endNode ∉ events := by
  intro settings s
  have hpolicy : s.settings.deadEnd = .abort := by decide
  have hcall : s.call "1" (.submit "no") = .ok ((s.perform "1" (.submit "no")).1,
      [.message "noted" "Noted", .aborted (.noEdge "check" (some "false"))]) := by
    decide
  have hmeets : s.MeetsDeadEnd (.submit "no") (.noEdge "check" (some "false")) := by
    unfold MeetsDeadEnd
    decide
  have hgoesOn : ¬ s.MeetsEnd (.submit "no") := by
    unfold MeetsEnd
    decide
  obtain ⟨hearly, -, hdead⟩ := ends_under_abort hpolicy hcall
  obtain ⟨⟨-, hreason, hlast⟩, -⟩ := hdead _ hmeets
  exact ⟨_, _, hcall, hmeets, hreason, hlast, fun values endNode hmem =>
    hgoesOn (hearly.mp ⟨values, endNode, hmem⟩)⟩

end Session

/-- A flow that leads to a condition and no further. -/
def Flow.blindAlley : Flow where
  nodes := [⟨"start", .start⟩, ⟨"check", .condition (.simple ⟨.and, []⟩)⟩]
  edges := [⟨"first", "start", "check", none⟩]
  sound := by decide

/-- **A condition that no edge leaves escapes the policy to abort**: the session completes
early at it. -/
theorem Session.completes_at_condition_blindAlley :
    let settings : Settings := { (default : Settings) with deadEnd := .abort }
    let s := Session.new settings default
    ∃ s' n rules, s.call "now" (.start .blindAlley) = .ok (s', [.completed .empty true none]) ∧
      s.enteredBy "now" (.start .blindAlley) = ["start", "check"] ∧
      s'.currentNode? = some n ∧ n.content = .condition (.simple rules) ∧
      s'.state = .completed ∧ s'.abortReason = none := by
  intro settings s
  have hcall : s.call "now" (.start .blindAlley) =
      .ok ((s.perform "now" (.start .blindAlley)).1, [.completed .empty true none]) := rfl
  have hentered : s.enteredBy "now" (.start .blindAlley) = ["start", "check"] := by decide
  have hnode : (s.perform "now" (.start .blindAlley)).1.currentNode? =
      some ⟨"check", .condition (.simple ⟨.and, []⟩)⟩ := by
    decide
  exact ⟨_, _, ⟨.and, []⟩, hcall, hentered, hnode, rfl, by decide, by decide⟩

end Dialogue
