import Dialogue.Proofs.Session.Rest
import Dialogue.Proofs.Session.Twins
import Dialogue.Session.Snapshot

/-!
# Going on from a snapshot

A session that began as a new one and is not idle can be made again from its snapshot
and its flow. The session that is made is its twin (`Dialogue.Session.Rests.restore`): it
differs only in its trace, which is empty, and in that it has no observer. So both do the
same from then on (`Dialogue.Session.resume_performAll`).
-/

namespace Dialogue

namespace Session

/-- **A session at rest is made again from its snapshot**, but for its trace and its
observer. -/
theorem Rests.restore {s : Session} {flow : Flow} (h : Rests s) (hstarted : s.state ≠ .idle)
    (hloaded : s.flow = some flow) :
    Session.restore s.settings flow s.snapshot =
      .ok (s.relogged s.settings.recordTrace (Trace.new s.id.text) none) := by
  have hknown : ∀ {flow' n}, Stands flow' n s → flow.node n.id = .ok n := by
    intro flow' n hstands
    obtain rfl : flow' = flow := by simpa [hstands.loaded] using hloaded
    exact Flow.node_eq_ok_iff.mpr hstands.known
  unfold Session.restore relogged snapshot
  -- the reason is dropped unless the session was aborted, and only then there is one
  cases h with
  | idle state => exact absurd state hstarted
  | waiting moves state asks =>
    simp [state, moves.cursor, hknown moves.toStands, restoredState,
      Node.question?_eq_some_iff.mpr asks, Session.new, moves.reason, hloaded]
  | completed stands state early reason finished =>
    simp [state, stands.cursor, hknown stands, restoredState, Session.new, reason, hloaded]
  | aborted stands state passed early reason finished =>
    simp [state, stands.cursor, hknown stands, restoredState, Session.new, hloaded]

end Session

end Dialogue
