import Dialogue.Proofs.Session.Plan
import Dialogue.Proofs.Session.Replay
import Mathlib.Data.List.Forall2

/-!
# Sessions that match

Two sessions match if one is a replica of the other but for the flow that it holds, and
the flows are related (`Dialogue.Session.Matches`). The relation may be any that tells no
more apart than a session does: flows that are related must route alike
(`Dialogue.Flow.RoutesLike`). Then sessions that match come to matching plans of the same
call (`Dialogue.Session.Matches.plan`), and so they get the same for every call and match
afterwards (`Dialogue.Session.Matches.performAll`). Neither their ids nor the times of the
calls matter.

What a session was before a run does not matter either. Two sessions with the same settings
match as soon as both have begun a run on related flows
(`Dialogue.Session.matchStep_begin`).
-/

namespace Dialogue

/-! ### Calls and plans -/

/-- **Calls are alike** if they are the same but for the flows that they start on, which are
related. -/
inductive Call.Like (R : Flow → Flow → Prop) : Call → Call → Prop
  | start {flow flow' : Flow} (related : R flow flow') : Like R (.start flow) (.start flow')
  | submit (value : String) : Like R (.submit value) (.submit value)
  | select (picked : String) : Like R (.select picked) (.select picked)
  | reset : Like R .reset .reset
  | restart : Like R .restart .restart

theorem Call.Like.refl {R : Flow → Flow → Prop} (hrefl : ∀ flow, R flow flow) (c : Call) :
    c.Like R c := by
  cases c with
  | start flow => exact start (hrefl flow)
  | submit value => exact submit value
  | select picked => exact select picked
  | reset => exact reset
  | restart => exact restart

/-- **Plans are alike** if they are the same but for the flows, which are related. -/
inductive Plan.Like (R : Flow → Flow → Prop) : Plan → Plan → Prop
  | refuse (refusal : Refusal) : Like R (.refuse refusal) (.refuse refusal)
  | forget : Like R .forget .forget
  | begin {flow flow' : Flow} (related : R flow flow') : Like R (.begin flow) (.begin flow')
  | answer {flow flow' : Flow} {node : Node} (related : R flow flow')
      (known : flow.node? node.id = some node) (q : Question) (value : String) :
      Like R (.answer flow node q value) (.answer flow' node q value)
  | giveUp (cursor : String) : Like R (.giveUp cursor) (.giveUp cursor)

namespace Session

/-- A session that holds another flow. -/
def holding (s : Session) (flow : Option Flow) : Session :=
  { s with flow := flow }

/-- **Two sessions match**: they hold flows that are related, and one is a replica of the
other but for this. -/
structure Matches (R : Flow → Flow → Prop) (s r : Session) : Prop where
  flows : Option.Rel R s.flow r.flow
  replica : Replica (s.holding r.flow) r

/-- **Two outcomes match**: the same is refused, or the same is shown and the sessions
match. -/
inductive MatchStep (R : Flow → Flow → Prop) : Outcome → Outcome → Prop
  | refused (refusal : Refusal) : MatchStep R (.error refusal) (.error refusal)
  | done {s r : Session} {events : List Event} (same : Matches R s r) :
      MatchStep R (.ok (s, events)) (.ok (r, events))

variable {R : Flow → Flow → Prop} {s r : Session} {p p' : Progress} {now now' : String}
  {flow flow' : Flow} {origin : Node} {entered : List String}

/-! ### Passes -/

/-- An event closes sessions that match alike. What is held stays as it is. -/
theorem Matches.close (h : Matches R p.session p'.session) (now now' : String) (e : Event) :
    Matches R (p.close now e).session (p'.close now' e).session := by
  have hheld : (p.close now e).session.holding p'.session.flow =
      ((Progress.mk (p.session.holding p'.session.flow) p.events).close now e).session := by
    cases e <;> rfl
  have hreplica : Replica ((p.close now e).session.holding p'.session.flow)
      (p'.close now' e).session := by
    rw [hheld]
    exact Replica.close h.replica now now' e
  have hflow : (p.close now e).session.flow = p.session.flow := flow_closed
  have hflow' : (p'.close now' e).session.flow = p'.session.flow := flow_closed
  exact ⟨hflow ▸ hflow' ▸ h.flows, hflow' ▸ hreplica⟩

/-- Sessions that match move alike along a route. -/
theorem Matches.along (h : Matches R p.session p'.session) (flow : Flow) (route : Route) :
    Matches R (p.along flow origin route.transit route.ending).session
      (p'.along flow origin route.transit route.ending).session := by
  have hreplica : Replica (Progress.mk (p.session.holding p'.session.flow) p.events).session
      p'.session := h.replica
  exact ⟨h.flows, hreplica.along flow origin route.transit route.ending⟩

/-- **Sessions that match pass alike** on flows that route alike. -/
theorem Matches.pass (h : Matches R p.session p'.session) (hevents : p'.events = p.events)
    (hlike : flow.RoutesLike flow') (hknown : flow.node? origin.id = some origin)
    (now now' : String) (entered : List String) :
    MatchStep R (.ok (ofProgress (p.pass now flow origin.id entered)))
      (.ok (ofProgress (p'.pass now' flow' origin.id entered))) := by
  have hsame : p'.pass now' flow' origin.id entered = p'.pass now' flow origin.id entered :=
    hlike.advance now' hknown entered _ p'
  obtain ⟨route, -, hpass⟩ :=
    Progress.exists_pass_eq hknown p.session.store p.session.settings entered
  rw [hsame, hpass p now rfl rfl, hpass p' now' h.replica.store h.replica.settings]
  generalize route.ending.closing _ _ = closing
  have hshown : ((p'.along flow origin route.transit route.ending).close now' closing).events =
      ((p.along flow origin route.transit route.ending).close now closing).events := by
    simp only [Progress.close, Progress.along, hevents]
  rw [ofProgress, ofProgress, hshown]
  exact MatchStep.done ((h.along flow route).close now now' closing)

theorem MatchStep.exists_of_ok {out : Session × List Event} {o : Outcome}
    (h : MatchStep R (.ok out) o) : ∃ r, o = .ok (r, out.2) ∧ Matches R out.1 r := by
  cases h with
  | done same => exact ⟨_, rfl, same⟩

/-! ### Plans -/

/-- Sessions that match wait alike. -/
theorem Matches.waiting_eq (h : Matches R s r) (operation : Operation) :
    (∃ refusal, s.waiting operation = .error refusal ∧ r.waiting operation = .error refusal) ∨
      ∃ flow flow' cursor, R flow flow' ∧ s.waiting operation = .ok (flow, cursor) ∧
        r.waiting operation = .ok (flow', cursor) := by
  have hstate : r.state = s.state := h.replica.state
  have hcursor : r.cursor = s.cursor := h.replica.cursor
  have hflows := h.flows
  cases hs : s.waiting operation with
  | ok place =>
    obtain ⟨flow, cursor⟩ := place
    obtain ⟨waits, loaded, stands⟩ := waiting_eq_ok_iff.mp hs
    rw [loaded] at hflows
    generalize hheld : r.flow = held at hflows
    cases hflows with
    | @some _ flow' related =>
      exact Or.inr ⟨flow, flow', cursor, related, rfl, waiting_eq_ok_iff.mpr
        ⟨hstate.trans waits, hheld, hcursor.trans stands⟩⟩
  | error refusal =>
    cases hr : r.waiting operation with
    | ok place =>
      -- then the one would wait as well
      obtain ⟨flow', cursor⟩ := place
      obtain ⟨waits, loaded, stands⟩ := waiting_eq_ok_iff.mp hr
      rw [loaded] at hflows
      generalize hheld : s.flow = held at hflows
      cases hflows with
      | @some flow _ related =>
        have hwaiting : s.waiting operation = .ok (flow, cursor) := waiting_eq_ok_iff.mpr
          ⟨hstate.symm.trans waits, hheld, hcursor.symm.trans stands⟩
        simp [hwaiting] at hs
    | error refusal' =>
      obtain rfl := eq_of_waiting_eq_error hs
      obtain rfl := eq_of_waiting_eq_error hr
      exact Or.inl ⟨_, rfl, by rw [hstate]⟩

variable (hR : ∀ {flow flow' : Flow}, R flow flow' → flow.RoutesLike flow')
include hR

/-- Plans for a question that waits are alike. -/
theorem Matches.planAnswer (h : Matches R s r) (operation : Operation)
    {plan : Flow → Node → Question → Plan}
    (hplan : ∀ {flow flow' : Flow} {node : Node} (q : Question), R flow flow' →
      flow.node? node.id = some node → Plan.Like R (plan flow node q) (plan flow' node q)) :
    Plan.Like R (s.planAnswer operation plan) (r.planAnswer operation plan) := by
  unfold Session.planAnswer
  obtain ⟨refusal, hs, hr⟩ | ⟨flow, flow', cursor, related, hs, hr⟩ := h.waiting_eq operation
  · rw [hs, hr]
    exact Plan.Like.refuse refusal
  · rw [hs, hr]
    simp only [(hR related).node? cursor]
    cases hn : flow.node? cursor with
    | none => exact Plan.Like.giveUp cursor
    | some node =>
      simp only
      cases hq : node.question? with
      | none => exact Plan.Like.giveUp cursor
      | some q => exact hplan q related (Flow.node?_id hn)

/-- **Sessions that match come to plans that are alike**, if the calls are. -/
theorem Matches.plan {c c' : Call} (h : Matches R s r) (hc : c.Like R c') :
    Plan.Like R (s.plan c) (r.plan c') := by
  have hstate : r.state = s.state := h.replica.state
  cases hc with
  | start related =>
    rw [Session.plan, Session.plan, hstate]
    split
    · exact Plan.Like.begin related
    · exact Plan.Like.refuse _
  | submit value =>
    exact h.planAnswer hR _ fun q related known => Plan.Like.answer related known q value
  | select picked =>
    refine h.planAnswer hR _ fun q related known => ?_
    cases q.pick? picked with
    | none => exact Plan.Like.refuse _
    | some value => exact Plan.Like.answer related known q value
  | reset => exact Plan.Like.forget
  | restart =>
    have hflows := h.flows
    rw [Session.plan, Session.plan, hstate]
    generalize s.flow = held at hflows
    generalize r.flow = held' at hflows
    cases hflows with
    | none => exact Plan.Like.refuse _
    | some related => exact Plan.Like.begin related

/-! ### Calls -/

/-- **A run begins alike** in sessions with the same settings. -/
theorem matchStep_begin (hsettings : r.settings = s.settings) (related : R flow flow')
    (now now' : String) :
    MatchStep R ((Plan.begin flow).carryOut s now) ((Plan.begin flow').carryOut r now') := by
  have hlike := hR related
  have hheld : (s.begun now flow').session =
      (s.begun now flow).session.holding (r.begun now' flow').session.flow := by
    rw [begun_eq, begun_eq, begun_eq, hlike.start]
    rfl
  have hflows : Option.Rel R (s.begun now flow).session.flow (r.begun now' flow').session.flow := by
    rw [begun_eq, begun_eq]
    exact Option.Rel.some related
  have hevents : (r.begun now' flow').events = (s.begun now flow).events := by
    rw [begun_eq, begun_eq]
  have hbegun : Matches R (s.begun now flow).session (r.begun now' flow').session :=
    ⟨hflows, hheld ▸ replica_begun hsettings flow' now now'⟩
  rw [Plan.carryOut, Plan.carryOut, hlike.start]
  exact hbegun.pass hevents hlike flow.node?_start now now' _

/-- **Plans that are alike are carried out alike** in sessions that match. -/
theorem Matches.carryOut {plan plan' : Plan} (h : Matches R s r) (hplan : plan.Like R plan')
    (now now' : String) : MatchStep R (plan.carryOut s now) (plan'.carryOut r now') := by
  cases hplan with
  | refuse refusal => exact MatchStep.refused refusal
  | forget =>
    refine MatchStep.done ⟨h.flows, ?_⟩
    have hsettings : r.settings = s.settings := h.replica.settings
    have hstore : r.reset.store = s.reset.store := congrArg Settings.newStore hsettings
    exact ⟨hsettings, rfl, rfl, rfl, hstore, rfl, rfl, rfl⟩
  | begin related => exact matchStep_begin hR h.replica.settings related now now'
  | @answer flow flow' node related known q value =>
    have hanswered : Matches R (s.answered node.id q value).session
        (r.answered node.id q value).session := by
      have hreplica := h.replica.answered node.id q value
      rw [answered_eq, answered_eq] at hreplica ⊢
      exact ⟨h.flows, hreplica⟩
    have hevents : (r.answered node.id q value).events = (s.answered node.id q value).events := by
      rw [answered_eq, answered_eq]
    exact hanswered.pass hevents (hR related) known now now' _
  | giveUp cursor =>
    rw [Plan.carryOut, Plan.carryOut, Progress.abort_eq, Progress.abort_eq]
    have hunopened : Matches R (Progress.mk s []).session (Progress.mk r []).session := h
    exact MatchStep.done (hunopened.close now now' _)

/-- **Sessions that match get the same for calls that are alike, and match afterwards.** -/
theorem Matches.perform {c c' : Call} (h : Matches R s r) (hc : c.Like R c')
    (now now' : String) :
    (r.perform now' c').2 = (s.perform now c).2 ∧
      Matches R (s.perform now c).1 (r.perform now' c').1 := by
  have hstep := h.carryOut hR (h.plan hR hc) now now'
  rw [← call_eq_carryOut, ← call_eq_carryOut] at hstep
  unfold Session.perform
  generalize s.call now c = o at hstep
  generalize r.call now' c' = o' at hstep
  cases hstep with
  | refused refusal => exact ⟨rfl, h⟩
  | done same => exact ⟨rfl, same⟩

/-- **After all calls sessions that match have got the same, and still match.** -/
theorem Matches.performAll {calls calls' : List (String × Call)} (h : Matches R s r)
    (hcalls : List.Forall₂ (Call.Like R) (calls.map (·.2)) (calls'.map (·.2))) :
    (r.performAll calls').2 = (s.performAll calls).2 ∧
      Matches R (s.performAll calls).1 (r.performAll calls').1 := by
  rw [List.forall₂_map_left_iff, List.forall₂_map_right_iff] at hcalls
  induction hcalls generalizing s r with
  | nil => exact ⟨rfl, h⟩
  | @cons entry entry' rest rest' hentry hrest ih =>
    obtain ⟨hresult, hnext⟩ := h.perform hR hentry entry.1 entry'.1
    obtain ⟨hresults, hlast⟩ := ih hnext
    exact ⟨List.cons_eq_cons.mpr ⟨hresult, hresults⟩, hlast⟩

end Session

end Dialogue
