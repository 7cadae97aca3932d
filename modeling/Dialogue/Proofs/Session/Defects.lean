import Dialogue.Proofs.Session.Events
import Dialogue.Proofs.Session.Restore

/-!
# Runs meet no defect

A flow has no defects, and so no run of it is ever aborted for one
(`Dialogue.Session.no_defect_performAll`). Two things could bring it about. An edge could
lead to a missing node; the checks of the flow rule that out, whatever node it is left
from. Or the cursor of a session that waits could name no question. This is not a matter of
the flow alone: a session may be made from a snapshot that was edited, or that was taken on
another flow. It is what restoring checks, and what every call keeps
(`Dialogue.Session.Founded`).
-/

namespace Dialogue

/-- **A route is not closed for a defect.** The reasons for which it is aborted are that no
edge can be followed, or that a guard stops it. -/
theorem Flow.Leads.closing_ne_defect {flow : Flow} {store : Store} {limit : Nat} {current : Node}
    {transit : List Node} {ending : Ending} (h : flow.Leads store limit current transit ending)
    (policy : DeadEndPolicy) (values : Store) (defect : Defect) :
    ending.closing policy values ≠ .aborted (.defect defect) := by
  induction h with
  | arrival found halts =>
    simp only [Ending.closing, Node.closing]
    split <;> simp
  | endOfFlow found => simp [Ending.closing]
  | @unresolved current reason found =>
    cases policy with
    | complete => simp [Ending.closing]
    | abort =>
      rcases reason_of_unresolved found with rfl | ⟨handle, rfl⟩ <;> simp [Ending.closing]
  | stepLimit found => simp [Ending.closing]
  | cycle found => simp [Ending.closing]
  | onward found passes rest ih => exact ih

namespace Session

/-! ### Sessions that wait at a question -/

/-- **A session is made** new, or from a snapshot and a flow that fit together; and it may be
given an observer. -/
inductive Made : Session → Prop
  | new (settings : Settings) (id : SessionId) : Made (Session.new settings id)
  | restored {settings : Settings} {flow : Flow} {snap : Snapshot} {s : Session}
      (h : Session.restore settings flow snap = .ok s) : Made s
  | withObserver {s : Session} (h : Made s) : Made s.withObserver

/-- **If the session waits, it waits at a question** of the flow that it holds. -/
def Founded (s : Session) : Prop :=
  s.state = .awaitingInput → s.pendingQuestion?.isSome = true

variable {s : Session} {now : String} {c : Call} {flow : Flow} {p : Progress} {origin : Node}
  {counted : Bool} {out : Session × List Event}

/-- A session whose pass is closed waits only if it was closed with a question. -/
theorem ClosedBy.founded {e : Event} (h : s.ClosedBy e) : s.Founded := by
  intro waits
  cases e with
  | message node text => exact h.elim
  | question node text options variableName =>
    obtain ⟨-, -, q, hq, -⟩ := h
    rw [hq]
    rfl
  | completed values early endNode => exact absurd (h.1.symm.trans waits) (by simp)
  | aborted reason => exact absurd (h.1.symm.trans waits) (by simp)

/-- **A session that waits, waits at a question**: where its cursor points there is one. -/
theorem Founded.exists_question (h : s.Founded) {operation : Operation} {cursor : String}
    (hwaiting : s.waiting operation = .ok (flow, cursor)) :
    ∃ n q, flow.node? cursor = some n ∧ n.question? = some q := by
  obtain ⟨q, hq⟩ := Option.isSome_iff_exists.mp (h (waiting_eq_ok_iff.mp hwaiting).1)
  rw [pendingQuestion?_of_waiting hwaiting] at hq
  obtain ⟨n, hn, hasks⟩ := Option.bind_eq_some_iff.mp hq
  exact ⟨n, q, hn, hasks⟩

theorem Founded.not_lost (h : s.Founded) (cursor : String) : ¬ Lost s cursor := by
  intro hlost
  have hpending := h hlost.1
  simp [hlost.pendingQuestion?_eq] at hpending

/-- A session under way is restored in front of a question only. -/
theorem asks_of_restoredState {state : SessionState} {n : Node}
    (h : restoredState state n = .ok .awaitingInput) : n.question?.isSome = true := by
  cases hq : n.question? with
  | some q => rfl
  | none => cases state <;> simp [restoredState, hq] at h

/-- **A session that is restored waits only at the question that its cursor names.** -/
theorem founded_of_restore {settings : Settings} {snap : Snapshot}
    (h : Session.restore settings flow snap = .ok s) : s.Founded := by
  intro waits
  cases restore_eq_ok_iff.mp h with
  | idle idle => simp [Session.new] at waits
  | @standing cursor node state started stands known fits =>
    obtain rfl : state = .awaitingInput := waits
    simpa [pendingQuestion?, currentNode?, known] using asks_of_restoredState fits

/-- **A session that is made waits only at a question.** -/
theorem Made.founded (h : s.Made) : s.Founded := by
  induction h with
  | new settings id => exact fun waits => by simp [Session.new] at waits
  | restored h => exact founded_of_restore h
  | withObserver h ih => exact ih

/-! ### Calls -/

/-- **A pass that is opened meets no defect**, and if the session waits after it, then at a
question. -/
theorem Opening.founded_pass (h : Opening s now flow c p origin counted) :
    let out := ofProgress (p.pass now flow origin.id (origin.seeds counted))
    out.1.Founded ∧ ∀ defect, .aborted (.defect defect) ∉ out.2 := by
  obtain ⟨hevents, hloaded, -, -⟩ := h.spec
  obtain ⟨r, hleads, hmoved⟩ := h.exists_route
  rw [hmoved]
  refine ⟨(closedBy_travel hleads hloaded now).founded, fun defect hdefect => ?_⟩
  simp only [ofProgress, Progress.events_travel hleads rfl now, hevents, List.nil_append] at hdefect
  have hclosing := r.eq_closing_of_mem_shown hdefect (by simp)
  exact hleads.closing_ne_defect _ _ defect hclosing.symm

/-- **A call meets no defect** in a session that waits only at questions. -/
theorem Turn.founded (h : Turn s now c out) (hs : s.Founded) :
    out.1.Founded ∧ ∀ defect, .aborted (.defect defect) ∉ out.2 := by
  cases h with
  | reset => exact ⟨fun waits => by simp [Session.reset] at waits, by simp⟩
  | direct opening => exact opening.founded_pass
  | pick opening => exact opening.founded_pass
  | again loaded opening => exact opening.founded_pass
  | lost hlost => exact absurd hlost (hs.not_lost _)

/-- **The step of a run**: a session that waits only at questions is left so, and is not
aborted for a defect. -/
theorem Founded.perform (h : s.Founded) (now : String) (c : Call) :
    (s.perform now c).1.Founded ∧
      ∀ defect, .aborted (.defect defect) ∉ (s.perform now c).2.toOption.getD [] := by
  unfold Session.perform
  cases hcall : s.call now c with
  | error refusal => exact ⟨h, by simp [Except.toOption]⟩
  | ok out => exact (turn_of_call hcall).founded h

/-- **Whatever is called, a session that waits only at questions is not aborted for a
defect.** -/
theorem Founded.performAll (h : s.Founded) (calls : List (String × Call)) :
    (s.performAll calls).1.Founded ∧
      ∀ defect, .aborted (.defect defect) ∉ returned (s.performAll calls).2 := by
  induction calls generalizing s with
  | nil => exact ⟨h, by simp [Session.performAll, returned]⟩
  | cons entry rest ih =>
    obtain ⟨hnext, hfirst⟩ := h.perform entry.1 entry.2
    obtain ⟨hlast, hrest⟩ := ih hnext
    refine ⟨hlast, fun defect hdefect => ?_⟩
    rcases List.mem_append.mp hdefect with hnow | hlater
    · exact hfirst defect hnow
    · exact hrest defect hlater

/-- **No run meets a defect.** Looking for the node after another has an outcome in every
flow, whatever the node and the store. So no session, be it new or made from whatever
snapshot can be restored, is aborted for a defect by any of its calls; and while it waits,
its cursor names a question of its flow. -/
theorem no_defect_performAll :
    (∀ (flow : Flow) (current : Node) (store : Store),
      ∃ r, (flow.resolve current store).1 = .ok r) ∧
    ∀ s : Session, s.Made → ∀ calls : List (String × Call),
      (∀ defect, .aborted (.defect defect) ∉ returned (s.performAll calls).2) ∧
      ∀ operation flow cursor, (s.performAll calls).1.waiting operation = .ok (flow, cursor) →
        ∃ n q, flow.node cursor = .ok n ∧ n.question? = some q := by
  constructor
  · intro flow current store
    obtain ⟨r, hr, -⟩ := flow.exists_resolution current store
    exact ⟨r, hr⟩
  · intro s hmade calls
    obtain ⟨hfounded, hnone⟩ := hmade.founded.performAll calls
    refine ⟨hnone, fun operation flow cursor hwaiting => ?_⟩
    obtain ⟨n, q, hn, hasks⟩ := hfounded.exists_question hwaiting
    exact ⟨n, q, Flow.node_eq_ok_iff.mpr hn, hasks⟩

/-- A snapshot of a session under way on some other flow, edited so that it stands at the
first question of `Dialogue.Flow.gated` and has a defect for a reason. The session that is
made from it goes on to the end of that flow. -/
theorem no_defect_performAll_gated :
    let snap : Snapshot := ⟨default, .running, some "age", .empty, true,
      some (.defect (.nodeNotFound "age"))⟩
    ∃ s : Session, Session.restore default .gated snap = .ok s ∧
      (s.performAll [("now", .submit "no")]).2 =
        [.ok [.completed (StringMap.empty.insert "adult" "no") false (some "bye")]] ∧
      ∀ defect, .aborted (.defect defect) ∉ returned (s.performAll [("now", .submit "no")]).2 := by
  intro snap
  obtain ⟨s, hs⟩ : ∃ s, Session.restore default .gated snap = .ok s := ⟨_, rfl⟩
  obtain rfl := Except.ok.inj hs
  exact ⟨_, hs, rfl, (no_defect_performAll.2 _ (Made.restored hs) [("now", .submit "no")]).1⟩

end Session

end Dialogue
