import Dialogue.Proofs.Flow.Order
import Dialogue.Proofs.Session.Matching
import Dialogue.Proofs.Session.Restore

/-!
# The order of nodes and edges in a session

Whoever talks to a session cannot tell in which order the nodes and the edges of its flow are
listed, as long as the first edge that leaves a node stays where the node is no condition
(`Dialogue.Session.order_performAll`). Flows that differ so route alike, and so sessions on
them match.
-/

namespace Dialogue

/-- The same call, with one flow in the place of another. -/
def Call.exchange (flow flow' : Flow) : Call → Call
  | .start other => .start (if other = flow then flow' else other)
  | c => c

variable {flow flow' : Flow}

/-- A call is like the same call with the flow reordered. -/
theorem Call.like_exchange (h : flow.Reorders flow') (c : Call) :
    c.Like Flow.Reorders (c.exchange flow flow') := by
  cases c with
  | start other =>
    refine Like.start ?_
    by_cases hsame : other = flow
    · rw [if_pos hsame, hsame]
      exact h
    · rw [if_neg hsame]
      exact Flow.Reorders.refl other
  | submit value => exact Like.submit value
  | select picked => exact Like.select picked
  | reset => exact Like.reset
  | restart => exact Like.restart

namespace Session

/-- **Two sessions agree** on all that a caller can ask for, but for their ids, their flows
and their times. -/
structure Agree (s r : Session) : Prop where
  state : r.state = s.state
  cursor : r.cursor = s.cursor
  store : r.store = s.store
  entries : r.trace.entries = s.trace.entries
  endedEarly : r.endedEarly = s.endedEarly
  abortReason : r.abortReason = s.abortReason

/-- **Two sessions cannot be told apart**, the one on a flow and the other on another: they
get the same for the same calls, each about its own flow, and agree afterwards. The times of
the calls may differ. -/
def SameOn (flow flow' : Flow) (s r : Session) : Prop :=
  ∀ calls calls' : List (String × Call), calls'.map (·.2) = calls.map (·.2.exchange flow flow') →
    (r.performAll calls').2 = (s.performAll calls).2 ∧
      Agree (s.performAll calls).1 (r.performAll calls').1

variable {s r : Session} {settings : Settings}

theorem Matches.agree {R : Flow → Flow → Prop} (h : Matches R s r) : Agree s r where
  state := h.replica.state
  cursor := h.replica.cursor
  store := h.replica.store
  entries := h.replica.entries
  endedEarly := h.replica.endedEarly
  abortReason := h.replica.abortReason

/-- Sessions that match cannot be told apart, if their flows are reordered. -/
theorem Matches.sameOn (h : Matches Flow.Reorders s r) (hflow : flow.Reorders flow') :
    SameOn flow flow' s r := by
  intro calls calls' hcalls
  have hlike : List.Forall₂ (Call.Like Flow.Reorders) (calls.map (·.2)) (calls'.map (·.2)) := by
    rw [hcalls, List.forall₂_map_left_iff, List.forall₂_map_right_iff]
    exact List.forall₂_same.mpr fun entry _ => Call.like_exchange hflow entry.2
  obtain ⟨hresults, hlast⟩ := h.performAll Flow.Reorders.routesLike hlike
  exact ⟨hresults, hlast.agree⟩

theorem matches_new (R : Flow → Flow → Prop) (settings : Settings) (id id' : SessionId) :
    Matches R (Session.new settings id) (Session.new settings id') :=
  ⟨Option.Rel.none, rfl, rfl, rfl, rfl, rfl, rfl, rfl, rfl⟩

/-- **A session is restored on the reordered flow as on the flow.** -/
theorem exists_matches_of_restore (hflow : flow.Reorders flow') {snap : Snapshot}
    (h : Session.restore settings flow snap = .ok s) :
    ∃ r, Session.restore settings flow' snap = .ok r ∧ Matches Flow.Reorders s r := by
  cases restore_eq_ok_iff.mp h with
  | idle idle => exact ⟨_, restore_eq_ok_iff.mpr (Restores.idle idle), matches_new _ _ _ _⟩
  | standing started stands known fits =>
    refine ⟨_, restore_eq_ok_iff.mpr (Restores.standing started stands ?_ fits), ?_⟩
    · rw [hflow.node?_eq, known]
    · exact ⟨Option.Rel.some hflow, ⟨rfl, rfl, rfl, rfl, rfl, rfl, rfl, rfl⟩⟩

/-- **The order of nodes and edges does not matter**, but for the first edge that leaves a
node which is no condition. If nodes and edges make a flow, they do so in any such order,
with the same warnings. Sessions on the two flows, be they new or made from one snapshot,
cannot be told apart. -/
theorem order_performAll {nodes nodes' : List Node} {edges edges' : List Edge}
    (hflow : Flow.build nodes edges = .ok flow) (h : Reordered nodes edges nodes' edges') :
    ∃ flow', Flow.build nodes' edges' = .ok flow' ∧ flow'.warnings.Perm flow.warnings ∧
      (∀ settings id id', SameOn flow flow' (Session.new settings id)
        (Session.new settings id')) ∧
      ∀ settings snap s, Session.restore settings flow snap = .ok s →
        ∃ r, Session.restore settings flow' snap = .ok r ∧ SameOn flow flow' s r := by
  obtain ⟨flow', hflow', hreorders⟩ := h.build hflow
  refine ⟨flow', hflow', hreorders.warnings_perm, fun settings id id' => ?_,
    fun settings snap s hs => ?_⟩
  · exact (matches_new _ settings id id').sameOn hreorders
  · obtain ⟨r, hr, hmatches⟩ := exists_matches_of_restore hreorders hs
    exact ⟨r, hr, hmatches.sameOn hreorders⟩

/-- `Dialogue.Flow.gated` is listed backwards, the two edges of its condition too. What is
shown of it stays the same. -/
theorem order_performAll_gated :
    ∃ flow', Flow.build Flow.gated.nodes.reverse Flow.gated.edges.reverse = .ok flow' ∧
      (flow'.outgoing "check").map (·.id) = ["fourth", "third"] ∧
      (flow'.outgoing "check") ≠ Flow.gated.outgoing "check" ∧
      ((Session.new default default).performAll
          [("later", .start flow'), ("later still", .submit "yes")]).2 =
        ((Session.new default default).performAll
          [("now", .start .gated), ("then", .submit "yes")]).2 := by
  have hbuild : Flow.build Flow.gated.nodes Flow.gated.edges = .ok .gated :=
    Flow.build_eq_ok_iff.mpr ⟨rfl, rfl⟩
  have hreordered : Reordered Flow.gated.nodes Flow.gated.edges Flow.gated.nodes.reverse
      Flow.gated.edges.reverse :=
    ⟨List.reverse_perm _, List.reverse_perm _, by decide⟩
  obtain ⟨flow', hflow', -, hnew, -⟩ := order_performAll hbuild hreordered
  refine ⟨flow', hflow', ?_, ?_, (hnew default default default _ _ ?_).1⟩
  · rw [Flow.outgoing_eq, (Flow.build_eq_ok_iff.mp hflow').2]
    decide
  · rw [Flow.outgoing_eq, (Flow.build_eq_ok_iff.mp hflow').2]
    decide
  · simp [Call.exchange]

end Session

end Dialogue
